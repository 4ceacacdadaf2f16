import AtomicCss.CommandLine.Report
import AtomicCss.Proofs.Restyle.Characters
import AtomicCss.Proofs.Sheet.Grouped

/-! # Texts without terminal control sequences

A text without the mark that starts a terminal control sequence is printed as it is. If a style and
the stem of the classes have no mark, then neither does what the style compiles to, nor the wording
of the error for which it cannot be read. -/

namespace AtomicCss

open Style

/-- The character that a terminal control sequence starts with. -/
def controlMark : Char := '\x1b'

/-- No terminal control sequence starts in a text. -/
def IsUnmarked (text : Text) : Prop := ∀ c ∈ text, c ≠ controlMark

instance (text : Text) : Decidable (IsUnmarked text) := List.decidableBAll _ text

section

variable {text first second : Text}

theorem isUnmarked_append :
    IsUnmarked (first ++ second) ↔ IsUnmarked first ∧ IsUnmarked second :=
  List.forall_mem_append

theorem isUnmarked_cons {c : Char} :
    IsUnmarked (c :: text) ↔ c ≠ controlMark ∧ IsUnmarked text :=
  List.forall_mem_cons

theorem IsUnmarked.subset (h : IsUnmarked second) (hsubset : first ⊆ second) :
    IsUnmarked first := fun c hc => h c (hsubset hc)

theorem isUnmarked_joinWith {separator : Text} (hseparator : IsUnmarked separator)
    {parts : List Text} (h : ∀ part ∈ parts, IsUnmarked part) :
    IsUnmarked (Text.joinWith separator parts) :=
  Text.forall_mem_joinWith hseparator h

theorem IsUnmarked.replaceFirst (h : IsUnmarked text) (pattern : Text) {replacement : Text}
    (hreplacement : IsUnmarked replacement) :
    IsUnmarked (Text.replaceFirst pattern replacement text) :=
  Text.forall_mem_replaceFirst h pattern hreplacement

/-! ## Printing -/

theorem CommandLine.controlSequenceWidth_of_ne {c : Char} (h : c ≠ controlMark) (rest : Text) :
    controlSequenceWidth (c :: rest) = 0 := by
  unfold controlSequenceWidth
  split
  · rename_i heq
    exact absurd (List.cons.inj heq).1 h
  · rfl

/-- Nothing is dropped from an unmarked text. -/
theorem CommandLine.printedLine_of_isUnmarked (h : IsUnmarked text) :
    printedLine text = text ++ ['\n'] := by
  have hdrop : dropControlSequencesAfter 0 text = text := by
    induction text with
    | nil => rfl
    | cons c rest ih =>
        obtain ⟨hc, hrest⟩ := isUnmarked_cons.1 h
        rw [dropControlSequencesAfter, controlSequenceWidth_of_ne hc]
        exact congrArg (c :: ·) (ih hrest)
  rw [printedLine, hdrop]

/-! ## Numerals and quoted texts -/

theorem isUnmarked_toDigits {base : Nat} (hbase : 1 < base) (n : Nat) :
    IsUnmarked (Nat.toDigits base n) := by
  induction n using Nat.strongRecOn with
  | _ n ih =>
      rw [Nat.toDigits_eq_if hbase]
      have hdigit (digit : Nat) : IsUnmarked [digit.digitChar] := by
        intro c hc
        rw [List.mem_singleton.1 hc]
        exact Nat.digitChar_ne controlMark (by decide)
      split_ifs with hsmall
      · exact hdigit n
      · have hless : n / base < n := Nat.div_lt_self (by omega) hbase
        exact isUnmarked_append.2 ⟨ih _ hless, hdigit _⟩

theorem isUnmarked_ofInt (n : Int) : IsUnmarked (Text.ofInt n) := by
  cases n with
  | ofNat n => exact isUnmarked_toDigits (by decide) n
  | negSucc n => exact isUnmarked_cons.2 ⟨by decide, isUnmarked_toDigits (by decide) (n + 1)⟩

theorem isUnmarked_paddedHex (width n : Nat) : IsUnmarked (Text.paddedHex width n) := by
  refine isUnmarked_append.2 ⟨?_, isUnmarked_toDigits (by decide) n⟩
  intro c hc
  rw [(List.mem_replicate.1 hc).2]
  decide

theorem isUnmarked_codePointEscape (c : Char) : IsUnmarked (Text.codePointEscape c) := by
  unfold Text.codePointEscape
  dsimp only
  split_ifs
  all_goals
    rw [isUnmarked_cons, isUnmarked_cons]
    exact ⟨by decide, by decide, isUnmarked_paddedHex _ _⟩

/-- The mark is not printable, so that quoting a text writes it as an escape sequence. -/
theorem isUnmarked_quotedChar {mark : Char} (hmark : mark ≠ controlMark) (c : Char) :
    IsUnmarked (Text.quotedChar mark c) := by
  rw [Text.quotedChar]
  split_ifs with hescaped _ _ _ hprintable
  · rw [isUnmarked_cons, isUnmarked_cons]
    refine ⟨by decide, ?_, by decide⟩
    rcases hescaped with rfl | rfl
    · exact hmark
    · decide
  · decide
  · decide
  · decide
  · rw [isUnmarked_cons]
    refine ⟨?_, by decide⟩
    rintro rfl
    exact absurd hprintable (by decide)
  · exact isUnmarked_codePointEscape c

theorem isUnmarked_quoted (text : Text) : IsUnmarked text.quoted := by
  have hmark : Text.quotationMark text ≠ controlMark := by
    rw [Text.quotationMark]
    split_ifs <;> decide
  rw [Text.quoted, List.cons_append, isUnmarked_cons, isUnmarked_append]
  refine ⟨hmark, ?_, isUnmarked_cons.2 ⟨hmark, by decide⟩⟩
  intro c hc
  obtain ⟨d, -, hd⟩ := List.mem_flatMap.1 hc
  exact isUnmarked_quotedChar hmark d c hd

end

/-! ## What a style compiles to -/

section

variable {style stem : Text} {items : List Item}

theorem isUnmarked_printDeclarations (hstyle : IsUnmarked style) {declarations : List Declaration}
    (h : ∀ d ∈ declarations, d.IsFrom style) : IsUnmarked (printDeclarations declarations) := by
  apply isUnmarked_joinWith (by decide)
  intro part hpart
  obtain ⟨declaration, hmem, rfl⟩ := List.mem_map.1 hpart
  obtain ⟨hname, hvalue⟩ := h declaration hmem
  rw [Declaration.print, isUnmarked_append, isUnmarked_append]
  exact ⟨⟨hstyle.subset hname, by decide⟩, hstyle.subset hvalue⟩

theorem isUnmarked_printBlock {head content : Text} (hhead : IsUnmarked head)
    (hcontent : IsUnmarked content) : IsUnmarked (printBlock head content) := by
  rw [printBlock, isUnmarked_append, isUnmarked_append, isUnmarked_append]
  exact ⟨⟨⟨hhead, by decide⟩, hcontent⟩, by decide⟩

theorem isUnmarked_plainBody (hstyle : IsUnmarked style) {declarations : List Declaration}
    (h : ∀ d ∈ declarations, d.IsFrom style) :
    IsUnmarked (GeneratedRule.plainBody declarations) :=
  isUnmarked_printBlock (by decide) (isUnmarked_printDeclarations hstyle h)

theorem Atom.isUnmarked_className (hstem : IsUnmarked stem) (atom : Atom) :
    IsUnmarked (atom.className stem) := by
  have halphabet : IsUnmarked ClassToken.alphabet := by decide
  exact isUnmarked_append.2
    ⟨hstem, halphabet.subset (ClassToken.ofText_subset_alphabet atom.key)⟩

/-- The rule of an atom of a style. -/
theorem Atom.isUnmarked_rule (hstem : IsUnmarked stem) (hstyle : IsUnmarked style)
    (hitems : ∀ item ∈ items, item.IsFrom style) {atom : Atom} (hatom : atom ∈ ofItems items) :
    IsUnmarked (atom.rule stem).body ∧ IsUnmarked (atom.rule stem).selector := by
  have hselector (hsuffix : IsUnmarked atom.suffix) : IsUnmarked (atom.rule stem).selector := by
    rw [Atom.rule, isUnmarked_cons, isUnmarked_append]
    exact ⟨by decide, atom.isUnmarked_className hstem, hsuffix⟩
  have hfrom := Atom.comesFrom_of_mem hatom
  cases atom with
  | plain declarations =>
      refine ⟨isUnmarked_plainBody hstyle fun d hd => ?_, hselector (List.forall_mem_nil _)⟩
      exact hitems _ (hfrom d (List.mem_filter.1 hd).1)
  | pseudoClass rule =>
      obtain ⟨hhead, hdeclarations⟩ := hitems _ hfrom
      exact ⟨isUnmarked_plainBody hstyle hdeclarations, hselector (hstyle.subset hhead)⟩
  | atRule rule =>
      obtain ⟨hhead, hdeclarations⟩ := hitems _ hfrom
      exact ⟨isUnmarked_printBlock (hstyle.subset hhead)
        (isUnmarked_plainBody hstyle hdeclarations), hselector (List.forall_mem_nil _)⟩

/-- The sheet of unmarked rules. -/
theorem Sheet.isUnmarked_print {rules : List GeneratedRule}
    (h : ∀ rule ∈ rules, IsUnmarked rule.body ∧ IsUnmarked rule.selector) :
    IsUnmarked (empty.mergeAll rules).print := by
  apply isUnmarked_joinWith (by decide)
  intro line hline
  obtain ⟨entry, hentry, rfl⟩ := List.mem_map.1 hline
  obtain ⟨rule, hrule, hbody⟩ := exists_body_eq_of_mem_entries hentry
  apply IsUnmarked.replaceFirst (hbody ▸ (h rule hrule).1)
  apply isUnmarked_joinWith (by decide)
  intro selector hselector
  exact (h _ (mem_rules_of_mem_entries hentry hselector)).2

/-- The classes, the style that stays inline and the rules of a style. -/
theorem Compiled.isUnmarked_ofItems (hstem : IsUnmarked stem) (hstyle : IsUnmarked style)
    (hitems : ∀ item ∈ items, item.IsFrom style) :
    let compiled := ofItems stem items
    IsUnmarked (Text.joinWith [' '] compiled.classes) ∧
      IsUnmarked (printDeclarations compiled.residual) ∧
      IsUnmarked (Sheet.empty.mergeAll compiled.rules).print := by
  refine ⟨?_, ?_, ?_⟩
  · apply isUnmarked_joinWith (by decide)
    rw [classes_ofItems]
    intro name hname
    obtain ⟨atom, -, rfl⟩ := List.mem_map.1 hname
    exact atom.isUnmarked_className hstem
  · apply isUnmarked_printDeclarations hstyle
    exact fun d hd => hitems _ (mem_of_mem_residual hd)
  · apply Sheet.isUnmarked_print
    rw [rules_ofItems]
    intro rule hrule
    obtain ⟨atom, hatom, rfl⟩ := List.mem_map.1 hrule
    exact Atom.isUnmarked_rule hstem hstyle hitems hatom

end

/-! ## Errors -/

/-- The wording of the error for which a style cannot be read. -/
theorem Style.isUnmarked_message {strict : Bool} {style : Text} {error : StyleError}
    (hstyle : IsUnmarked style) (h : (parse strict style).outcome = .error error) :
    IsUnmarked error.message := by
  have hreason : IsUnmarked error.defect.reason := by
    cases hdefect : error.defect with
    | nestedTooDeep => decide +kernel
    | unmatchedClose => decide +kernel
    | unclosedRule selector =>
        have hselector := (selector_infix_of_parse h hdefect).subset
        dsimp only [Defect.reason]
        refine isUnmarked_append.2 ⟨isUnmarked_append.2 ⟨?_, hstyle.subset hselector⟩, ?_⟩
        · decide
        · decide +kernel
    | malformedDeclaration segment =>
        dsimp only [Defect.reason]
        refine isUnmarked_append.2 ⟨?_, isUnmarked_quoted segment⟩
        decide +kernel
  rw [StyleError.message, located]
  split_ifs
  · have hplace : IsUnmarked (error.defect.reason ++ " at position ".toList) :=
      isUnmarked_append.2 ⟨hreason, by decide⟩
    have hposition := isUnmarked_append.2 ⟨hplace, isUnmarked_ofInt error.position⟩
    exact isUnmarked_append.2
      ⟨isUnmarked_append.2 ⟨hposition, by decide⟩, isUnmarked_quoted error.source⟩
  · exact hreason

end AtomicCss
