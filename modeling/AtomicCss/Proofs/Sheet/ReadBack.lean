import AtomicCss.Proofs.Sheet.Grouped
import AtomicCss.Proofs.Sheet.Order
import AtomicCss.Proofs.Style.RoundTrip
import AtomicCss.Proofs.Text.Occurrences
import AtomicCss.Sheet.Printer
import Mathlib.Data.List.Forall2

/-! # Reading a sheet that was written

A sheet without at-rules is written as a sequence of blocks. Its selectors and declarations were
read from style texts, so they have no delimiters, and reading the sheet as a style gives one rule
for each entry: the selectors of the entry, and the declarations that its body was made from. -/

namespace AtomicCss

open Style

namespace Style

/-! ## Selectors -/

/-- What stands between two texts that are trimmed and not empty is not trimmed. -/
theorem IsPiece.surround {first middle last : Text} (hfirst : IsPiece first)
    (hmiddle : IsPlain middle) (hlast : IsPiece last) (hne : first ≠ []) (hne' : last ≠ []) :
    IsPiece (first ++ middle ++ last) where
  plain := isPlain_append.2 ⟨isPlain_append.2 ⟨hfirst.plain, hmiddle⟩, hlast.plain⟩
  trimmed := by
    constructor
    · rw [List.append_assoc, List.head?_append_of_ne_nil _ hne]
      exact hfirst.trimmed.1
    · rw [List.getLast?_append_of_ne_nil _ hne']
      exact hlast.trimmed.2

theorem isPiece_joinWith {separator : Text} (hseparator : IsPlain separator) {parts : List Text}
    (h : ∀ part ∈ parts, IsPiece part ∧ part ≠ []) : IsPiece (Text.joinWith separator parts) := by
  have hboth : IsPiece (Text.joinWith separator parts) ∧
      (parts ≠ [] → Text.joinWith separator parts ≠ []) := by
    induction parts with
    | nil => exact ⟨isPiece_nil, fun hne => absurd rfl hne⟩
    | cons part others ih =>
        obtain ⟨hpart, hne⟩ := h part List.mem_cons_self
        cases others with
        | nil => exact ⟨hpart, fun _ => hne⟩
        | cons next others =>
            obtain ⟨hrest, hne'⟩ := ih fun other hother => h other (List.mem_cons_of_mem _ hother)
            refine ⟨hpart.surround hseparator hrest hne (hne' (List.cons_ne_nil _ _)), ?_⟩
            simp [hne]
  exact hboth.1

/-! ## Blocks on lines -/

/-- Rules that are written on lines have a derivation that gives them back. -/
theorem exists_derivation_lines {lead : Text} (hlead : IsGap lead) {rules : List NestedRule}
    (h : ∀ rule ∈ rules, rule.IsCanonical) :
    ∃ derivation : Derivation,
      derivation.text = lead ++ Text.joinWith ['\n'] (rules.map NestedRule.print) ∧
        derivation.items = rules.map .rule := by
  induction rules generalizing lead with
  | nil =>
      refine ⟨⟨[], lead, hlead.plain⟩, (List.append_nil lead).symm, ?_⟩
      rw [Derivation.items, declarationsOf_gap hlead]
      rfl
  | cons rule others ih =>
      obtain ⟨hselector, hdeclarations⟩ := h rule List.mem_cons_self
      obtain ⟨phrase, htext, hitems⟩ := exists_phrase_printBlock hlead hselector hdeclarations
      -- the line end before the next block is the gap that this block starts with
      have hnext : IsGap (if others = [] then [] else ['\n']) := by
        split_ifs
        · exact isGap_nil
        · exact ⟨by decide, by decide⟩
      obtain ⟨derivation, htext', hitems'⟩ :=
        ih hnext fun other hother => h other (List.mem_cons_of_mem _ hother)
      refine ⟨⟨phrase :: derivation.phrases, derivation.final⟩, ?_, ?_⟩
      · rw [Derivation.text] at htext' ⊢
        rw [List.flatMap_cons, List.append_assoc, htext, htext']
        cases others <;> simp [NestedRule.print]
      · rw [Derivation.items] at hitems' ⊢
        rw [List.flatMap_cons, List.append_assoc, hitems, hitems']
        rfl

theorem outcome_parse_lines {rules : List NestedRule} (h : ∀ rule ∈ rules, rule.IsCanonical) :
    (parse false (Text.joinWith ['\n'] (rules.map NestedRule.print))).outcome =
      .ok (rules.map .rule) := by
  obtain ⟨derivation, htext, hitems⟩ := exists_derivation_lines isGap_nil h
  rw [List.nil_append] at htext
  rw [← htext, outcome_parse_text, hitems]

/-- Declarations are told apart by what is written for them. -/
theorem printDeclarations_inj {first second : List Declaration}
    (hfirst : ∀ d ∈ first, d.IsCanonical) (hsecond : ∀ d ∈ second, d.IsCanonical)
    (h : printDeclarations first = printDeclarations second) : first = second := by
  have hread {declarations : List Declaration} (hcanonical : ∀ d ∈ declarations, d.IsCanonical) :
      (parse false (printDeclarations declarations)).outcome =
        .ok (declarations.map .declaration) := by
    rw [← printItems_map_declaration]
    exact outcome_parse_printItems (by simpa [Item.IsCanonical] using hcanonical)
  have heq := hread hfirst
  rw [h, hread hsecond] at heq
  exact (List.map_injective_iff.2 fun _ _ => Item.declaration.inj) (Except.ok.inj heq).symm

end Style

/-! ## Rules of a sheet -/

theorem GeneratedRule.plainBody_inj {first second : List Declaration}
    (hfirst : ∀ d ∈ first, d.IsCanonical) (hsecond : ∀ d ∈ second, d.IsCanonical)
    (h : plainBody first = plainBody second) : first = second := by
  apply printDeclarations_inj hfirst hsecond
  simpa [plainBody, printBlock] using h

theorem placeholder_ne_nil : placeholder ≠ [] := by decide

/-- The entry of a rule is written as a block with the selectors of the entry. -/
theorem Sheet.printEntry_plainBody (declarations : List Declaration) (selectors : List Text) :
    printEntry (GeneratedRule.plainBody declarations) selectors =
      NestedRule.print ⟨Text.joinWith [',', ' '] selectors, declarations⟩ := by
  simp only [printEntry, GeneratedRule.plainBody, NestedRule.print, printBlock, List.append_assoc]
  exact Text.replaceFirst_append placeholder_ne_nil _ _

namespace ClassToken

theorem isPiece_ofText (text : Text) : IsPiece (ofText text) := by
  have hplain : IsPlain alphabet := by decide
  have hblank : alphabet.all (fun c => !Text.isBlank c) := by decide
  have hsolid : ∀ c ∈ ofText text, Text.isBlank c = false := by
    intro c hc
    simpa using List.all_eq_true.1 hblank c (ofText_subset_alphabet text hc)
  refine ⟨fun c hc => hplain c (ofText_subset_alphabet text hc), ?_, ?_⟩
  · intro c hc
    exact hsolid c (List.mem_of_head? hc)
  · intro c hc
    exact hsolid c (List.mem_of_getLast? hc)

theorem ofText_ne_nil (text : Text) : ofText text ≠ [] := by
  apply List.ne_nil_of_length_pos
  rw [length_ofText]
  decide

end ClassToken

namespace Atom

/-- The declarations that the rule is made from. -/
def declarations : Atom → List Declaration
  | plain declarations => declarations.filter fun d => !d.isCustom
  | pseudoClass rule => rule.declarations
  | atRule rule => rule.declarations

/-- Where a style has no at-rules, the body of an atom is that of a plain rule. -/
theorem body_eq_plainBody {items : List Item} {atom : Atom} (h : atom ∈ ofItems items)
    (hitems : ∀ rule, .rule rule ∈ items → rule.isAtRule = false) :
    atom.body = GeneratedRule.plainBody atom.declarations := by
  cases atom with
  | plain declarations => rfl
  | pseudoClass rule => rfl
  | atRule rule =>
      have hrule : rule.isAtRule = true := isClassified_of_mem h
      rw [hitems rule (comesFrom_of_mem h)] at hrule
      cases hrule

theorem isCanonical_of_mem {items : List Item} {atom : Atom} (h : atom ∈ ofItems items)
    (hitems : ∀ item ∈ items, item.IsCanonical) :
    IsPiece atom.suffix ∧ ∀ d ∈ atom.declarations, d.IsCanonical := by
  have hfrom := comesFrom_of_mem h
  cases atom with
  | plain declarations =>
      refine ⟨isPiece_nil, ?_⟩
      intro d hd
      exact hitems _ (hfrom d (List.mem_filter.1 hd).1)
  | pseudoClass rule =>
      have hrule := hitems _ hfrom
      exact ⟨hrule.selector, hrule.declarations⟩
  | atRule rule => exact ⟨isPiece_nil, (hitems _ hfrom).declarations⟩

/-- The selector of a rule is a dot, the stem, a token and what follows the class. -/
theorem isPiece_selector {stem : Text} (hstem : IsPlain stem) {atom : Atom}
    (h : IsPiece atom.suffix) :
    IsPiece (atom.rule stem).selector ∧ (atom.rule stem).selector ≠ [] := by
  have hdot : IsPiece ['.'] := ⟨by decide, by decide⟩
  have htoken := ClassToken.isPiece_ofText atom.key
  have hne := ClassToken.ofText_ne_nil atom.key
  have hclass : IsPiece (['.'] ++ stem ++ ClassToken.ofText atom.key) :=
    hdot.surround hstem htoken (by decide) hne
  have hselector : (atom.rule stem).selector =
      ['.'] ++ stem ++ ClassToken.ofText atom.key ++ [] ++ atom.suffix := by
    simp [rule, className]
  rw [hselector]
  refine ⟨?_, by simp⟩
  by_cases hsuffix : atom.suffix = []
  · rw [hsuffix, List.append_nil, List.append_nil]
    exact hclass
  · exact hclass.surround isPlain_nil h (by simp) hsuffix

end Atom

/-! ## Sheets of styles -/

/-- A rule that was read is that of an entry: it has the selectors of the entry, and the
declarations of every atom that the body of the entry belongs to. -/
structure ReadsEntry (atoms : List Atom) (rule : NestedRule) (entry : Text × List Text) :
    Prop where
  selector : rule.selector = Text.joinWith [',', ' '] entry.2
  source : ∃ atom ∈ atoms, atom.body = entry.1
  declarations : ∀ atom ∈ atoms, atom.body = entry.1 → rule.declarations = atom.declarations

/-- The entry of plain rules is written as a rule that can be read. -/
theorem exists_readsEntry {stem : Text} (hstem : IsPlain stem) {atoms : List Atom}
    (hbody : ∀ atom ∈ atoms, atom.body = GeneratedRule.plainBody atom.declarations)
    (hcanonical : ∀ atom ∈ atoms, IsPiece atom.suffix ∧ ∀ d ∈ atom.declarations, d.IsCanonical)
    {entry : Text × List Text}
    (h : entry ∈ (Sheet.empty.mergeAll (atoms.map (Atom.rule stem))).entries) :
    ∃ rule : NestedRule, rule.IsCanonical ∧ Sheet.printEntry entry.1 entry.2 = rule.print ∧
      ReadsEntry atoms rule entry := by
  obtain ⟨body, selectors⟩ := entry
  have hselectors : ∀ selector ∈ selectors, IsPiece selector ∧ selector ≠ [] := by
    intro selector hselector
    obtain ⟨atom, hatom, hrule⟩ := List.mem_map.1 (Sheet.mem_rules_of_mem_entries h hselector)
    rw [show selector = (atom.rule stem).selector by rw [hrule]]
    exact Atom.isPiece_selector hstem (hcanonical atom hatom).1
  obtain ⟨rule, hrule, hsource⟩ := Sheet.exists_body_eq_of_mem_entries h
  obtain ⟨source, hatom, rfl⟩ := List.mem_map.1 hrule
  obtain rfl : source.body = body := hsource
  have hdeclarations := (hcanonical source hatom).2
  refine ⟨⟨Text.joinWith [',', ' '] selectors, source.declarations⟩, ⟨?_, hdeclarations⟩, ?_, ?_⟩
  · exact isPiece_joinWith (by decide) hselectors
  · rw [hbody source hatom, Sheet.printEntry_plainBody]
  · refine ⟨rfl, ⟨source, hatom, rfl⟩, ?_⟩
    intro atom hmem heq
    rw [hbody source hatom, hbody atom hmem] at heq
    exact (GeneratedRule.plainBody_inj (hcanonical atom hmem).2 hdeclarations heq).symm

section

variable {settings : Settings} {texts : List Text} {styles : List (List Item)}

/-- The sheet of styles that can be read is that of their atoms. -/
theorem collect_eq_mergeAll_atoms
    (htexts : List.Forall₂ (fun text items => (parse settings.strict text).outcome = .ok items)
      texts styles) :
    collect settings texts = Sheet.empty.mergeAll
      ((styles.flatMap Atom.ofItems).map (Atom.rule settings.classStem)) := by
  have hatoms : texts.flatMap (Atom.ofText settings.strict) = styles.flatMap Atom.ofItems := by
    induction htexts with
    | nil => rfl
    | cons htext _ ih =>
        rw [List.flatMap_cons, List.flatMap_cons, ih, Atom.ofText_of_parse htext]
  rw [collect_eq_mergeAll_ofText, hatoms]

theorem exists_text_of_mem_styles
    (htexts : List.Forall₂ (fun text items => (parse settings.strict text).outcome = .ok items)
      texts styles) :
    ∀ items ∈ styles, ∃ text ∈ texts, (parse settings.strict text).outcome = .ok items := by
  induction htexts with
  | nil =>
      intro items hitems
      exact absurd hitems List.not_mem_nil
  | cons htext _ ih =>
      intro items hitems
      rcases List.mem_cons.1 hitems with rfl | hitems
      · exact ⟨_, List.mem_cons_self, htext⟩
      · obtain ⟨text, hmem, hparse⟩ := ih items hitems
        exact ⟨text, List.mem_cons_of_mem _ hmem, hparse⟩

/-- A style that is read by any reader is made of canonical items. -/
theorem isCanonical_of_forall₂_parse
    (htexts : List.Forall₂ (fun text items => (parse settings.strict text).outcome = .ok items)
      texts styles) :
    ∀ items ∈ styles, ∀ item ∈ items, item.IsCanonical := by
  intro items hitems
  obtain ⟨text, -, hparse⟩ := exists_text_of_mem_styles htexts items hitems
  exact isCanonical_of_parse hparse

/-- Style texts without at-rules are compiled into a sheet that is written as a style text of its
own. Reading it gives one rule for each entry, in order: its selector is the selectors of the entry
joined by commas, and its declarations are those that the body of the entry was made from. -/
theorem parse_print_collect (hstem : IsPlain settings.classStem)
    (htexts : List.Forall₂ (fun text items => (parse settings.strict text).outcome = .ok items)
      texts styles)
    (hatRules : ∀ items ∈ styles, ∀ rule, .rule rule ∈ items → rule.isAtRule = false) :
    ∃ rules : List NestedRule,
      (parse false (collect settings texts).print).outcome = .ok (rules.map .rule) ∧
        List.Forall₂ (ReadsEntry (styles.flatMap Atom.ofItems)) rules
          (collect settings texts).entries := by
  have hcanonical := isCanonical_of_forall₂_parse htexts
  rw [collect_eq_mergeAll_atoms htexts]
  generalize hsheet : Sheet.empty.mergeAll
    ((styles.flatMap Atom.ofItems).map (Atom.rule settings.classStem)) = sheet
  have hentries : ∀ entry ∈ sheet.entries, ∃ rule : NestedRule, rule.IsCanonical ∧
      Sheet.printEntry entry.1 entry.2 = rule.print ∧
        ReadsEntry (styles.flatMap Atom.ofItems) rule entry := by
    intro entry hentry
    rw [← hsheet] at hentry
    apply exists_readsEntry hstem _ _ hentry
    · intro atom hatom
      obtain ⟨items, hitems, hmem⟩ := List.mem_flatMap.1 hatom
      exact Atom.body_eq_plainBody hmem (hatRules items hitems)
    · intro atom hatom
      obtain ⟨items, hitems, hmem⟩ := List.mem_flatMap.1 hatom
      exact Atom.isCanonical_of_mem hmem (hcanonical items hitems)
  have : Nonempty NestedRule := ⟨⟨[], []⟩⟩
  choose! rule hrule hprint hreads using hentries
  refine ⟨sheet.entries.map rule, ?_, ?_⟩
  · have hlines : sheet.print =
        Text.joinWith ['\n'] ((sheet.entries.map rule).map NestedRule.print) := by
      rw [Sheet.print, List.map_map]
      congr 1
      exact List.map_congr_left hprint
    rw [hlines]
    apply outcome_parse_lines
    intro read hread
    obtain ⟨entry, hentry, rfl⟩ := List.mem_map.1 hread
    exact hrule entry hentry
  · rw [List.forall₂_map_left_iff, List.forall₂_same]
    exact hreads

end

/-- Styles with the placeholder in a value, declarations without a name or a value, and a body
that two of them share. -/
def oddStyles : List (List Item) :=
  [[.declaration ⟨[], placeholder⟩, .declaration ⟨"--x".toList, ['1']⟩, .declaration ⟨['y'], []⟩],
    [.rule ⟨":hover, .b".toList, [⟨"color".toList, "a:b".toList⟩]⟩, .rule ⟨".c".toList, []⟩],
    [.declaration ⟨"color".toList, "a:b".toList⟩]]

/-- Their sheet has two entries, and it is read as two rules. -/
theorem oddStyles_read_back :
    (collect .standard (oddStyles.map printItems)).print =
        (".hw_5xkd2 \x7b : ZTc5OGY2MDUtMTFkNy00ODJmLWI4NmMtZjExYzA5MzdiZjc5; y:  \x7d\n" ++
          ".hw_dDFLr:hover, .b, .hw_7zRNH \x7b color: a:b \x7d").toList ∧
      ∃ rules : List NestedRule,
        (parse false (collect .standard (oddStyles.map printItems)).print).outcome =
            .ok (rules.map .rule) ∧
          List.Forall₂ (ReadsEntry (oddStyles.flatMap Atom.ofItems)) rules
            (collect .standard (oddStyles.map printItems)).entries := by
  refine ⟨by decide +kernel, parse_print_collect (by decide) ?_ ?_⟩
  · rw [List.forall₂_map_left_iff, List.forall₂_same]
    decide
  · simp only [← Atom.mem_filterMap_rule?]
    decide

end AtomicCss
