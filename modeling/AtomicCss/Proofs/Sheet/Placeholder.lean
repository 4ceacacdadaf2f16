import AtomicCss.Proofs.Sheet.Grouped
import AtomicCss.Proofs.Sheet.ReadBack
import AtomicCss.Proofs.Style.Parts
import AtomicCss.Proofs.Text.Occurrences

/-! # The placeholder of a body

Writing an entry puts its selectors in the place of the first placeholder of the body. Where no
at-rule spells the placeholder in its head, this is the one that compiling put there. Where no style
text spells it at all, none is left: the texts of a style are parted by characters that the
placeholder does not have, and a class name is too short for it. -/

namespace AtomicCss

open Style

/-! ## The characters of the placeholder -/

theorem notMem_placeholder {c : Char} (h : c.isAlphanum = false) : c ∉ placeholder := by
  have hletters : placeholder.all Char.isAlphanum := by decide
  intro hc
  rw [List.all_eq_true.1 hletters c hc] at h
  cases h

theorem forall_notMem_placeholder {separator : Text}
    (h : separator.all fun c => !c.isAlphanum) : ∀ c ∈ separator, c ∉ placeholder := by
  intro c hc
  exact notMem_placeholder (by simpa using List.all_eq_true.1 h c hc)

/-- The placeholder does not fit into a shorter text. -/
theorem not_placeholder_infix_of_length_lt {text : Text} (h : text.length < 48) :
    ¬placeholder <:+: text := by
  intro hfound
  have hlength : placeholder.length = 48 := by decide
  have hle := hfound.length_le
  omega

/-! ## Entries -/

/-- The rule of an atom, written with these selectors. -/
def Atom.written (selectors : Text) : Atom → Text
  | plain declarations =>
      printBlock selectors (printDeclarations (declarations.filter fun d => !d.isCustom))
  | pseudoClass rule => printBlock selectors (printDeclarations rule.declarations)
  | atRule rule =>
      printBlock rule.selector (printBlock selectors (printDeclarations rule.declarations))

/-- The selectors go to the place inside the head of an at-rule, unless the head has one. -/
theorem Sheet.printEntry_atRuleBody {head : Text} (hhead : ¬placeholder <:+: head)
    (declarations : List Declaration) (selectors : List Text) :
    printEntry (GeneratedRule.atRuleBody head declarations) selectors =
      printBlock head
        (printBlock (Text.joinWith [',', ' '] selectors) (printDeclarations declarations)) := by
  have hopening : ¬placeholder <:+: head ++ [' ', '{'] := by
    rw [Text.infix_append_cons_iff (notMem_placeholder rfl), not_or]
    exact ⟨hhead, not_placeholder_infix_of_length_lt (by decide)⟩
  have hbody : GeneratedRule.atRuleBody head declarations =
      (head ++ [' ', '{']) ++ ' ' :: (placeholder ++
        ([' ', '{', ' '] ++ printDeclarations declarations ++ [' ', '}', ' ', '}'])) := by
    simp [GeneratedRule.atRuleBody, GeneratedRule.plainBody, printBlock]
  rw [printEntry, hbody, Text.replaceFirst_append_cons (notMem_placeholder rfl) hopening,
    Text.replaceFirst_append placeholder_ne_nil]
  simp [printBlock]

theorem Sheet.printEntry_body {atom : Atom}
    (hhead : ∀ rule, atom = .atRule rule → ¬placeholder <:+: rule.selector)
    (selectors : List Text) :
    printEntry atom.body selectors = atom.written (Text.joinWith [',', ' '] selectors) := by
  cases atom with
  | plain declarations => exact printEntry_plainBody _ selectors
  | pseudoClass rule => exact printEntry_plainBody _ selectors
  | atRule rule => exact printEntry_atRuleBody (hhead rule rfl) _ selectors

/-- A line is that of an entry: it is the rule of every atom that the body of the entry belongs to,
with the selectors of the entry. -/
structure WritesEntry (atoms : List Atom) (line : Text) (entry : Text × List Text) : Prop where
  source : ∃ atom ∈ atoms, atom.body = entry.1
  written : ∀ atom ∈ atoms, atom.body = entry.1 →
    line = atom.written (Text.joinWith [',', ' '] entry.2)

/-! ## Texts without the placeholder -/

theorem placeholder_infix_printBlock_iff {head content : Text} :
    placeholder <:+: printBlock head content ↔
      placeholder <:+: head ∨ placeholder <:+: content := by
  have hend : ¬placeholder <:+: ['}'] := not_placeholder_infix_of_length_lt (by decide)
  rw [printBlock, Text.infix_append_cons_iff (notMem_placeholder rfl), or_iff_left hend,
    Text.infix_surround_iff (by decide) (forall_notMem_placeholder (by decide))]

theorem placeholder_infix_joinWith_iff {separator : Text} (hne : separator ≠ [])
    (hseparator : separator.all fun c => !c.isAlphanum) {parts : List Text} :
    placeholder <:+: Text.joinWith separator parts ↔ ∃ part ∈ parts, placeholder <:+: part :=
  Text.infix_joinWith_iff placeholder_ne_nil hne (forall_notMem_placeholder hseparator)

section

variable {text : Text} (htext : ¬placeholder <:+: text)

include htext

theorem not_placeholder_infix_printDeclarations {declarations : List Declaration}
    (h : ∀ d ∈ declarations, d.IsWithin text) :
    ¬placeholder <:+: printDeclarations declarations := by
  rw [printDeclarations, placeholder_infix_joinWith_iff (by decide) (by decide)]
  rintro ⟨part, hpart, hfound⟩
  obtain ⟨declaration, hmem, rfl⟩ := List.mem_map.1 hpart
  obtain ⟨hname, hvalue⟩ := h declaration hmem
  rw [Declaration.print,
    Text.infix_surround_iff (by decide) (forall_notMem_placeholder (by decide))] at hfound
  rcases hfound with hfound | hfound
  · exact htext (hfound.trans hname)
  · exact htext (hfound.trans hvalue)

variable {items : List Item} (hitems : ∀ item ∈ items, item.IsWithin text) {atom : Atom}
  (hatom : atom ∈ Atom.ofItems items)

include hitems hatom

theorem Atom.not_placeholder_infix_written {selectors : Text}
    (hselectors : ¬placeholder <:+: selectors) : ¬placeholder <:+: atom.written selectors := by
  have hfrom := comesFrom_of_mem hatom
  cases atom with
  | plain declarations =>
      rw [written, placeholder_infix_printBlock_iff, not_or]
      refine ⟨hselectors, not_placeholder_infix_printDeclarations htext fun d hd => ?_⟩
      exact hitems _ (hfrom d (List.mem_filter.1 hd).1)
  | pseudoClass rule =>
      obtain ⟨-, hdeclarations⟩ := hitems _ hfrom
      rw [written, placeholder_infix_printBlock_iff, not_or]
      exact ⟨hselectors, not_placeholder_infix_printDeclarations htext hdeclarations⟩
  | atRule rule =>
      obtain ⟨hselector, hdeclarations⟩ := hitems _ hfrom
      rw [written, placeholder_infix_printBlock_iff, placeholder_infix_printBlock_iff, not_or,
        not_or]
      exact ⟨fun h => htext (h.trans hselector), hselectors,
        not_placeholder_infix_printDeclarations htext hdeclarations⟩

/-- The class stands between a dot and a colon or the end, which leaves too little room. -/
theorem Atom.not_placeholder_infix_selector {stem : Text} (hstem : stem.length ≤ 42) :
    ¬placeholder <:+: (atom.rule stem).selector := by
  have hclass : ¬placeholder <:+: atom.className stem := by
    apply not_placeholder_infix_of_length_lt
    rw [className, List.length_append, ClassToken.length_ofText]
    omega
  have hnil : ¬placeholder <:+: [] := not_placeholder_infix_of_length_lt (by decide)
  have hsuffix : ¬placeholder <:+: atom.suffix := by
    have hfrom := comesFrom_of_mem hatom
    cases atom with
    | plain declarations => exact hnil
    | pseudoClass rule => exact fun h => htext (h.trans (hitems _ hfrom).1)
    | atRule rule => exact hnil
  have hselector : placeholder <:+: (atom.rule stem).selector ↔
      placeholder <:+: atom.className stem ++ atom.suffix := by
    rw [rule, ← List.nil_append ('.' :: _), Text.infix_append_cons_iff (notMem_placeholder rfl),
      or_iff_right hnil]
  rw [hselector]
  rcases head?_suffix (isClassified_of_mem hatom) with hempty | hcolon
  · rwa [hempty, List.append_nil]
  · obtain ⟨rest, hrest⟩ := List.head?_eq_some_iff.1 hcolon
    rw [hrest] at hsuffix ⊢
    rw [Text.infix_append_cons_iff (notMem_placeholder rfl), not_or]
    exact ⟨hclass, fun h => hsuffix (h.trans (List.suffix_cons _ _).isInfix)⟩

end

/-! ## Sheets of styles -/

section

variable {stem : Text} {atoms : List Atom} {entry : Text × List Text}
  (hentry : entry ∈ (Sheet.empty.mergeAll (atoms.map (Atom.rule stem))).entries)

include hentry

theorem writesEntry_of_mem_entries
    (hheads : ∀ rule, .atRule rule ∈ atoms → ¬placeholder <:+: rule.selector) :
    WritesEntry atoms (Sheet.printEntry entry.1 entry.2) entry := by
  constructor
  · obtain ⟨rule, hrule, hbody⟩ := Sheet.exists_body_eq_of_mem_entries hentry
    obtain ⟨atom, hatom, rfl⟩ := List.mem_map.1 hrule
    exact ⟨atom, hatom, hbody⟩
  · intro atom hatom hbody
    rw [← hbody, Sheet.printEntry_body]
    rintro rule rfl
    exact hheads rule hatom

theorem not_placeholder_infix_selectors
    (hselectors : ∀ atom ∈ atoms, ¬placeholder <:+: (atom.rule stem).selector) :
    ¬placeholder <:+: Text.joinWith [',', ' '] entry.2 := by
  rw [placeholder_infix_joinWith_iff (by decide) (by decide)]
  rintro ⟨selector, hselector, hfound⟩
  have hrule := Sheet.mem_rules_of_mem_entries hentry hselector
  obtain ⟨atom, hatom, heq⟩ := List.mem_map.1 hrule
  apply hselectors atom hatom
  rwa [heq]

end

section

variable {settings : Settings} {texts : List Text} {styles : List (List Item)}

/-- The CSS text of style texts has one line for each entry of their sheet, in order, with the
selectors of the entry where compiling put the placeholder, if no at-rule has the placeholder in its
head. If no style text has it and the classes start with at most 42 characters, the placeholder does
not occur in the CSS text. -/
theorem print_collect_placeholder
    (htexts : List.Forall₂ (fun text items => (parse settings.strict text).outcome = .ok items)
      texts styles)
    (hatRules : ∀ items ∈ styles, ∀ rule, .rule rule ∈ items → rule.isAtRule →
      ¬placeholder <:+: rule.selector) :
    (∃ lines, (collect settings texts).print = Text.joinWith ['\n'] lines ∧
      List.Forall₂ (WritesEntry (styles.flatMap Atom.ofItems)) lines
        (collect settings texts).entries) ∧
    ((∀ text ∈ texts, ¬placeholder <:+: text) → settings.classStem.length ≤ 42 →
      ¬placeholder <:+: (collect settings texts).print) := by
  rw [collect_eq_mergeAll_atoms htexts]
  have hheads : ∀ rule, .atRule rule ∈ styles.flatMap Atom.ofItems →
      ¬placeholder <:+: rule.selector := by
    intro rule hrule
    obtain ⟨items, hitems, hmem⟩ := List.mem_flatMap.1 hrule
    exact hatRules items hitems rule (Atom.comesFrom_of_mem hmem) (Atom.isClassified_of_mem hmem)
  refine ⟨⟨_, rfl, ?_⟩, ?_⟩
  · rw [List.forall₂_map_left_iff, List.forall₂_same]
    exact fun entry hentry => writesEntry_of_mem_entries hentry hheads
  · intro hfree hstem
    have hsource : ∀ atom ∈ styles.flatMap Atom.ofItems, ∃ text items,
        ¬placeholder <:+: text ∧ (∀ item ∈ items, Item.IsWithin text item) ∧
          atom ∈ Atom.ofItems items := by
      intro atom hatom
      obtain ⟨items, hitems, hmem⟩ := List.mem_flatMap.1 hatom
      obtain ⟨text, htext, hparse⟩ := exists_text_of_mem_styles htexts items hitems
      exact ⟨text, items, hfree text htext, isWithin_of_parse hparse, hmem⟩
    have hselectors : ∀ atom ∈ styles.flatMap Atom.ofItems,
        ¬placeholder <:+: (atom.rule settings.classStem).selector := by
      intro atom hatom
      obtain ⟨text, items, htext, hwithin, hmem⟩ := hsource atom hatom
      exact Atom.not_placeholder_infix_selector htext hwithin hmem hstem
    rw [Sheet.print, placeholder_infix_joinWith_iff (by decide) (by decide)]
    rintro ⟨line, hline, hfound⟩
    obtain ⟨entry, hentry, rfl⟩ := List.mem_map.1 hline
    obtain ⟨⟨atom, hatom, hbody⟩, hwritten⟩ := writesEntry_of_mem_entries hentry hheads
    obtain ⟨text, items, htext, hwithin, hmem⟩ := hsource atom hatom
    change placeholder <:+: Sheet.printEntry entry.1 entry.2 at hfound
    rw [hwritten atom hatom hbody] at hfound
    exact Atom.not_placeholder_infix_written htext hwithin hmem
      (not_placeholder_infix_selectors hentry hselectors) hfound

end

/-- Styles with declarations that a pseudo-class rule and an at-rule repeat. -/
def repeatedStyles : List (List Item) :=
  [[.declaration ⟨"color".toList, "red".toList⟩,
      .rule ⟨":hover".toList, [⟨"color".toList, "red".toList⟩]⟩,
      .rule ⟨"@media print".toList, [⟨"color".toList, "red".toList⟩]⟩],
    [.declaration ⟨"margin".toList, "0".toList⟩]]

/-- Their sheet has three entries, the first of them with two selectors. -/
theorem repeatedStyles_printed :
    let sheet := collect .standard (repeatedStyles.map printItems)
    sheet.print =
        ".hw_CTY41, .hw_h8iMG:hover \x7b color: red \x7d\n".toList ++
          "@media print \x7b .hw_YHWl6 \x7b color: red \x7d \x7d\n".toList ++
          ".hw_CZuXp \x7b margin: 0 \x7d".toList ∧
      (∃ lines, sheet.print = Text.joinWith ['\n'] lines ∧
        List.Forall₂ (WritesEntry (repeatedStyles.flatMap Atom.ofItems)) lines sheet.entries) ∧
      ¬placeholder <:+: sheet.print := by
  intro sheet
  have htexts : List.Forall₂
      (fun text items => (parse Settings.standard.strict text).outcome = .ok items)
      (repeatedStyles.map printItems) repeatedStyles := by
    rw [List.forall₂_map_left_iff, List.forall₂_same]
    decide
  obtain ⟨hlines, hnone⟩ := print_collect_placeholder htexts (by
    simp only [← Atom.mem_filterMap_rule?]
    decide)
  exact ⟨by decide +kernel, hlines, hnone (by decide) (by decide)⟩

end AtomicCss
