import AtomicCss.Proofs.Outcome
import AtomicCss.Proofs.Style.Lenient
import AtomicCss.Proofs.Style.Segments
import Mathlib.Data.List.Infix

/-! # Braces of a style

Whether a style can be read depends on its braces alone. Three faults are possible: a brace that
opens inside an open rule, a brace that closes while no rule is open, and a rule that is still open
at the end. The reader fails exactly if a text has a fault, and it reports the first one. -/

namespace AtomicCss.Style

/-- How many more braces open than close. -/
def depth (text : Text) : Int := text.count '{' - text.count '}'

/-- The segment that a text ends in. -/
def lastSegment (text : Text) : Text :=
  (text.reverse.takeWhile fun c => c ≠ ';' ∧ c ≠ '{' ∧ c ≠ '}').reverse

/-- The selector that the last opening brace of a text stands after. -/
def openSelector (text : Text) : Text :=
  (lastSegment (text.reverse.dropWhile (· ≠ '{')).tail.reverse).trim

/-- A fault in the braces of a text, with its position and its wording. -/
inductive BraceFault (text : Text) : Nat → Text → Prop where
  | nestedTooDeep {before : Text} (hat : before ++ ['{'] <+: text) (hdepth : depth before = 1) :
      BraceFault text before.length
        "Nested rules deeper than one level are not supported".toList
  | unmatchedClose {before : Text} (hat : before ++ ['}'] <+: text) (hdepth : depth before = 0) :
      BraceFault text before.length "Unexpected '\x7d' without a matching '\x7b'".toList
  | unclosedRule (hdepth : depth text = 1) :
      BraceFault text text.length
        ("Rule '".toList ++ openSelector text ++ "' is missing its closing '\x7d'".toList)

/-- A fault that no other one precedes. -/
def FirstBraceFault (text : Text) (position : Nat) (reason : Text) : Prop :=
  BraceFault text position reason ∧
    ∀ other reason', BraceFault text other reason' → position ≤ other

/-! ## Depth and last segment -/

theorem depth_append (first second : Text) :
    depth (first ++ second) = depth first + depth second := by
  simp only [depth, List.count_append]
  omega

theorem depth_of_isPlain {text : Text} (h : IsPlain text) : depth text = 0 := by
  have hopen : text.count '{' = 0 := List.count_eq_zero.2 fun hmem => (h _ hmem).2.1 rfl
  have hclose : text.count '}' = 0 := List.count_eq_zero.2 fun hmem => (h _ hmem).2.2 rfl
  simp [depth, hopen, hclose]

theorem depth_append_segment {before segment : Text} (h : IsPlain segment) :
    depth (before ++ segment) = depth before := by
  rw [depth_append, depth_of_isPlain h, Int.add_zero]

@[simp]
theorem lastSegment_append_delimiter (before : Text) (delimiter : Delimiter) :
    lastSegment (before ++ [delimiter.toChar]) = [] := by
  cases delimiter <;> simp [lastSegment, Delimiter.toChar]

theorem lastSegment_append_segment {before segment : Text} (h : IsPlain segment) :
    lastSegment (before ++ segment) = lastSegment before ++ segment := by
  rw [lastSegment, List.reverse_append, List.takeWhile_append_of_pos]
  · simp [lastSegment]
  · intro c hc
    simpa using h c (List.mem_reverse.1 hc)

theorem openSelector_append {before middle : Text} (h : '{' ∉ middle) :
    openSelector (before ++ middle) = openSelector before := by
  rw [openSelector, List.reverse_append, List.dropWhile_append_of_pos]
  · rfl
  · intro c hc
    have hne : c ≠ '{' := fun heq => h (heq ▸ List.mem_reverse.1 hc)
    simpa using hne

theorem openSelector_concat_opening (before : Text) :
    openSelector (before ++ ['{']) = (lastSegment before).trim := by
  simp [openSelector]

/-! ## Texts without faults -/

/-- A text in which no brace is at fault. -/
def Quiet (text : Text) : Prop :=
  ∀ before, (before ++ ['{'] <+: text → depth before ≠ 1) ∧
    (before ++ ['}'] <+: text → depth before ≠ 0)

theorem quiet_nil : Quiet [] := by
  intro before
  constructor
  · intro h
    simp at h
  · intro h
    simp at h

theorem Quiet.concat {text : Text} {c : Char} (h : Quiet text)
    (hopen : c = '{' → depth text ≠ 1) (hclose : c = '}' → depth text ≠ 0) :
    Quiet (text ++ [c]) := by
  intro before
  constructor
  · intro hat
    rcases List.prefix_concat_iff.1 hat with heq | hat
    · obtain ⟨rfl, rfl⟩ := List.append_inj' heq rfl |>.imp id List.singleton_inj.1
      exact hopen rfl
    · exact (h before).1 hat
  · intro hat
    rcases List.prefix_concat_iff.1 hat with heq | hat
    · obtain ⟨rfl, rfl⟩ := List.append_inj' heq rfl |>.imp id List.singleton_inj.1
      exact hclose rfl
    · exact (h before).2 hat

theorem Quiet.append_segment {text segment : Text} (h : Quiet text) (hsegment : IsPlain segment) :
    Quiet (text ++ segment) := by
  induction segment generalizing text with
  | nil => simpa using h
  | cons c segment ih =>
      have hc := hsegment c List.mem_cons_self
      have hstep : Quiet (text ++ [c]) :=
        h.concat (fun heq => absurd heq hc.2.1) fun heq => absurd heq hc.2.2
      simpa using ih hstep fun d hd => hsegment d (List.mem_cons_of_mem c hd)

/-- No fault is found before the end of a quiet start. -/
theorem Quiet.length_le {front text : Text} (h : Quiet front) (hfront : front <+: text)
    {position : Nat} {reason : Text} (hfault : BraceFault text position reason) :
    front.length ≤ position := by
  cases hfault with
  | @nestedTooDeep before hat hdepth =>
      by_contra hlt
      apply (h before).1 _ hdepth
      apply List.prefix_of_prefix_length_le hat hfront
      rw [List.length_append, List.length_singleton]
      omega
  | @unmatchedClose before hat hdepth =>
      by_contra hlt
      apply (h before).2 _ hdepth
      apply List.prefix_of_prefix_length_le hat hfront
      rw [List.length_append, List.length_singleton]
      omega
  | unclosedRule hdepth => exact hfront.length_le

/-- A quiet text in which every rule is closed has no fault. -/
theorem Quiet.not_braceFault {text : Text} (h : Quiet text) (hdepth : depth text = 0)
    (position : Nat) (reason : Text) : ¬ BraceFault text position reason := by
  intro hfault
  have hle := h.length_le (List.prefix_refl text) hfault
  cases hfault with
  | nestedTooDeep hat _ =>
      have := hat.length_le
      simp only [List.length_append, List.length_singleton] at this
      omega
  | unmatchedClose hat _ =>
      have := hat.length_le
      simp only [List.length_append, List.length_singleton] at this
      omega
  | unclosedRule hdepth' => omega

/-! ## Reading -/

/-- What the reader knows of the text before a piece: it is quiet, it ends in a delimiter if it
is not empty, and its last opening brace opened the rule that is open. The second argument is the
selector of that rule. -/
structure Scanned (before : Text) (selector? : Option Text) : Prop where
  quiet : Quiet before
  ended : lastSegment before = []
  depth_eq : depth before = if selector?.isSome then 1 else 0
  opened : ∀ selector ∈ selector?, selector = openSelector before

theorem scanned_nil : Scanned [] none := by
  refine ⟨quiet_nil, rfl, rfl, ?_⟩
  intro selector hselector
  cases hselector

section Steps

variable {before segment : Text} {selector? : Option Text}

theorem Scanned.depth_append_segment (h : Scanned before selector?) (hsegment : IsPlain segment) :
    depth (before ++ segment) = if selector?.isSome then 1 else 0 := by
  rw [Style.depth_append_segment hsegment, h.depth_eq]

theorem Scanned.semicolon (h : Scanned before selector?) (hsegment : IsPlain segment) :
    Scanned (before ++ segment ++ [';']) selector? where
  quiet := (h.quiet.append_segment hsegment).concat (fun heq => absurd heq (by decide))
    fun heq => absurd heq (by decide)
  ended := lastSegment_append_delimiter (before ++ segment) .semicolon
  depth_eq := by
    rw [depth_append, h.depth_append_segment hsegment]
    exact Int.add_zero _
  opened := by
    intro selector hselector
    rw [List.append_assoc, openSelector_append]
    · exact h.opened selector hselector
    · intro hopen
      rcases List.mem_append.1 hopen with hopen | hopen
      · exact (hsegment _ hopen).2.1 rfl
      · exact absurd (List.mem_singleton.1 hopen) (by decide)

theorem Scanned.opening (h : Scanned before none) (hsegment : IsPlain segment) :
    Scanned (before ++ segment ++ ['{']) (some segment.trim) where
  quiet := by
    apply (h.quiet.append_segment hsegment).concat _ fun heq => absurd heq (by decide)
    intro _
    rw [h.depth_append_segment hsegment]
    simp
  ended := lastSegment_append_delimiter (before ++ segment) .opening
  depth_eq := by
    rw [depth_append, h.depth_append_segment hsegment]
    rfl
  opened := by
    intro selector hselector
    cases hselector
    rw [openSelector_concat_opening, lastSegment_append_segment hsegment, h.ended,
      List.nil_append]

theorem Scanned.closing {selector : Text} (h : Scanned before (some selector))
    (hsegment : IsPlain segment) : Scanned (before ++ segment ++ ['}']) none where
  quiet := by
    apply (h.quiet.append_segment hsegment).concat fun heq => absurd heq (by decide)
    intro _
    rw [h.depth_append_segment hsegment]
    simp
  ended := lastSegment_append_delimiter (before ++ segment) .closing
  depth_eq := by
    rw [depth_append, h.depth_append_segment hsegment]
    rfl
  opened := by
    intro selector hselector
    cases hselector

/-! A brace at fault after a quiet text is the first fault. -/

theorem Scanned.first_nestedTooDeep {selector rest : Text} (h : Scanned before (some selector))
    (hsegment : IsPlain segment) :
    FirstBraceFault (before ++ segment ++ '{' :: rest) (before ++ segment).length
      Defect.nestedTooDeep.reason := by
  refine ⟨.nestedTooDeep ⟨rest, by simp⟩ (h.depth_append_segment hsegment), ?_⟩
  intro position reason hfault
  exact (h.quiet.append_segment hsegment).length_le (List.prefix_append _ _) hfault

theorem Scanned.first_unmatchedClose {rest : Text} (h : Scanned before none)
    (hsegment : IsPlain segment) :
    FirstBraceFault (before ++ segment ++ '}' :: rest) (before ++ segment).length
      Defect.unmatchedClose.reason := by
  refine ⟨.unmatchedClose ⟨rest, by simp⟩ (h.depth_append_segment hsegment), ?_⟩
  intro position reason hfault
  exact (h.quiet.append_segment hsegment).length_le (List.prefix_append _ _) hfault

theorem Scanned.first_unclosedRule {selector : Text} (h : Scanned before (some selector))
    (hsegment : IsPlain segment) :
    FirstBraceFault (before ++ segment) (before ++ segment).length
      (Defect.unclosedRule selector).reason := by
  have hselector : selector = openSelector (before ++ segment) := by
    rw [openSelector_append fun hopen => (hsegment _ hopen).2.1 rfl]
    exact h.opened selector rfl
  refine ⟨?_, ?_⟩
  · rw [hselector]
    exact .unclosedRule (h.depth_append_segment hsegment)
  · intro position reason hfault
    exact (h.quiet.append_segment hsegment).length_le (List.prefix_refl _) hfault

end Steps

/-- What an outcome of reading has to say about the braces of a text. -/
def AgreesWithBraces (text : Text) : Except (Defect × Nat) (List Item) → Prop
  | .ok _ => ∀ position reason, ¬ BraceFault text position reason
  | .error (defect, position) => FirstBraceFault text position defect.reason

theorem agreesWithBraces_map {text : Text} {f : List Item → List Item}
    {outcome : Except (Defect × Nat) (List Item)} (h : AgreesWithBraces text outcome) :
    AgreesWithBraces text (outcome.map f) := by
  cases outcome <;> exact h

/-- Reading on from a scanned text agrees with the braces of the whole text. The induction is on
the pieces; each of them lengthens the text that has been scanned. -/
theorem Scanned.agreesWithBraces {before : Text} {inside : Option OpenRule} {ended : List Piece}
    {last : Text} (h : Scanned before (inside.map OpenRule.selector))
    (hended : ∀ piece ∈ ended, IsPlain piece.segment) (hlast : IsPlain last) :
    AgreesWithBraces (before ++ joinPieces ended last)
      (readPieces false before.length inside ended last).outcome := by
  induction ended generalizing before inside with
  | nil =>
      cases inside with
      | none =>
          rw [outcome_readPieces_nil]
          exact (h.quiet.append_segment hlast).not_braceFault (h.depth_append_segment hlast)
      | some rule =>
          rw [outcome_readPieces_nil_inside, ← List.length_append]
          exact h.first_unclosedRule hlast
  | cons piece rest ih =>
      obtain ⟨segment, delimiter⟩ := piece
      have hsegment : IsPlain segment := hended _ List.mem_cons_self
      have hrest : ∀ other ∈ rest, IsPlain other.segment := fun other hother =>
        hended other (List.mem_cons_of_mem _ hother)
      have hlength : before.length + (segment.length + 1) =
          (before ++ segment ++ [delimiter.toChar]).length := by simp
      have htext : before ++ joinPieces (⟨segment, delimiter⟩ :: rest) last =
          before ++ segment ++ [delimiter.toChar] ++ joinPieces rest last := by simp
      cases inside with
      | none =>
          cases delimiter with
          | semicolon =>
              rw [outcome_readPieces_semicolon, hlength, htext]
              exact agreesWithBraces_map (ih (h.semicolon hsegment) hrest)
          | opening =>
              rw [outcome_readPieces_opening, hlength, htext]
              exact ih (h.opening hsegment) hrest
          | closing =>
              rw [outcome_readPieces_closing, htext, ← List.length_append, List.append_assoc]
              exact h.first_unmatchedClose hsegment
      | some rule =>
          cases delimiter with
          | semicolon =>
              rw [outcome_readPieces_semicolon_inside, hlength, htext]
              exact ih (h.semicolon hsegment) hrest
          | opening =>
              rw [outcome_readPieces_opening_inside, htext, ← List.length_append,
                List.append_assoc]
              exact h.first_nestedTooDeep hsegment
          | closing =>
              rw [outcome_readPieces_closing_inside, hlength, htext]
              exact agreesWithBraces_map (ih (h.closing hsegment) hrest)

theorem agreesWithBraces_readPieces (text : Text) :
    AgreesWithBraces text (readPieces false 0 none (pieces text).1 (pieces text).2).outcome := by
  obtain ⟨hended, hlast⟩ := isPlain_pieces text
  have h : AgreesWithBraces ([] ++ joinPieces (pieces text).1 (pieces text).2)
      (readPieces false ([] : Text).length none (pieces text).1 (pieces text).2).outcome :=
    scanned_nil.agreesWithBraces hended hlast
  rwa [List.nil_append, joinPieces_pieces] at h

/-- An error names the first fault. -/
theorem firstBraceFault_of_parse {text : Text} {error : StyleError}
    (h : (parse false text).outcome = .error error) :
    FirstBraceFault text error.position error.defect.reason ∧ error.source = text := by
  have hagrees := agreesWithBraces_readPieces text
  rw [outcome_parse] at h
  obtain ⟨⟨defect, position⟩, hread, rfl⟩ := Outcome.mapError_eq_error_iff.1 h
  rw [hread] at hagrees
  exact ⟨hagrees, rfl⟩

/-- A text with a fault is refused. -/
theorem exists_error_of_braceFault {text : Text} {position : Nat} {reason : Text}
    (h : BraceFault text position reason) :
    ∃ error, (parse false text).outcome = .error error := by
  have hagrees := agreesWithBraces_readPieces text
  rw [outcome_parse]
  cases hread : (readPieces false 0 none (pieces text).1 (pieces text).2).outcome with
  | error found => exact ⟨_, rfl⟩
  | ok items =>
      rw [hread] at hagrees
      exact absurd h (hagrees position reason)

/-! ## Texts that start alike -/

theorem prefix_of_take_eq {front text other : Text} (hfront : front <+: text)
    (h : other.take front.length = text.take front.length) : front <+: other := by
  rw [List.prefix_iff_eq_take] at hfront ⊢
  rw [h, ← hfront]

/-- A fault before the end of a text is one of every text that starts alike. -/
theorem BraceFault.of_take_eq {text other : Text} {position : Nat} {reason : Text}
    (h : BraceFault text position reason) (hposition : position < text.length)
    (hshared : other.take (position + 1) = text.take (position + 1)) :
    BraceFault other position reason := by
  cases h with
  | nestedTooDeep hat hdepth =>
      refine .nestedTooDeep (prefix_of_take_eq hat ?_) hdepth
      simpa using hshared
  | unmatchedClose hat hdepth =>
      refine .unmatchedClose (prefix_of_take_eq hat ?_) hdepth
      simpa using hshared
  | unclosedRule _ => exact absurd hposition (Nat.lt_irrefl _)

/-- Before the end, the brace at the position tells which fault it is. -/
theorem BraceFault.reason_eq {text : Text} {position : Nat} {reason reason' : Text}
    (h : BraceFault text position reason) (h' : BraceFault text position reason')
    (hposition : position < text.length) : reason = reason' := by
  have hat : ∀ {before : Text} {c : Char}, before ++ [c] <+: text → before.length = position →
      text[position]? = some c := by
    rintro before c ⟨rest, rfl⟩ rfl
    simp
  generalize hp : position = other at h'
  cases h with
  | nestedTooDeep hopen _ =>
      cases h' with
      | nestedTooDeep _ _ => rfl
      | unmatchedClose hclose _ =>
          have := (hat hopen rfl).symm.trans (hat hclose hp.symm)
          simp at this
      | unclosedRule _ => omega
  | unmatchedClose hclose _ =>
      cases h' with
      | nestedTooDeep hopen _ =>
          have := (hat hclose rfl).symm.trans (hat hopen hp.symm)
          simp at this
      | unmatchedClose _ _ => rfl
      | unclosedRule _ => omega
  | unclosedRule _ => omega

theorem FirstBraceFault.of_take_eq {text other : Text} {position : Nat} {reason : Text}
    (h : FirstBraceFault text position reason) (hposition : position < text.length)
    (hshared : other.take (position + 1) = text.take (position + 1)) :
    FirstBraceFault other position reason := by
  have hlength : position < other.length := by
    have := congrArg List.length hshared
    simp only [List.length_take] at this
    omega
  refine ⟨h.1.of_take_eq hposition hshared, ?_⟩
  intro earlier reason' hfault
  by_contra hlt
  refine hlt (h.2 earlier reason' (hfault.of_take_eq (by omega) ?_))
  have := congrArg (List.take (earlier + 1)) hshared
  rw [List.take_take, List.take_take, Nat.min_eq_left (by omega)] at this
  exact this.symm

/-- Reading fails exactly if a text has a fault in its braces. The error names the first fault and
carries the whole text, and a fault before the end is reported alike for every text with the same
characters up to it. -/
theorem lenient_parse_error_iff_braceFault (text : Text) :
    ((∃ error, (parse false text).outcome = .error error) ↔
      ∃ position reason, BraceFault text position reason) ∧
    ∀ error, (parse false text).outcome = .error error →
      FirstBraceFault text error.position error.defect.reason ∧ error.source = text ∧
        (error.position < text.length → ∀ other : Text,
          other.take (error.position + 1) = text.take (error.position + 1) →
            ∃ error', (parse false other).outcome = .error error' ∧
              error'.position = error.position ∧
              error'.defect.reason = error.defect.reason) := by
  refine ⟨⟨?_, ?_⟩, ?_⟩
  · rintro ⟨error, h⟩
    exact ⟨_, _, (firstBraceFault_of_parse h).1.1⟩
  · rintro ⟨position, reason, h⟩
    exact exists_error_of_braceFault h
  · intro error h
    obtain ⟨hfirst, hsource⟩ := firstBraceFault_of_parse h
    refine ⟨hfirst, hsource, ?_⟩
    intro hposition other hshared
    have hother := hfirst.of_take_eq hposition hshared
    obtain ⟨error', h'⟩ := exists_error_of_braceFault hother.1
    have hfirst' := (firstBraceFault_of_parse h').1
    have heq : error'.position = error.position :=
      Nat.le_antisymm (hfirst'.2 _ _ hother.1) (hother.2 _ _ hfirst'.1)
    have hlength : error.position < other.length := by
      have := congrArg List.length hshared
      simp only [List.length_take] at this
      omega
    refine ⟨error', h', heq, ?_⟩
    exact BraceFault.reason_eq (heq ▸ hfirst'.1) hother.1 hlength

/-- A brace that opens inside an open rule is reported alike before any continuation. -/
theorem nestedTooDeep_reported_alike :
    (parse false ":a\x7bb\x7bc".toList).outcome =
        .error ⟨.nestedTooDeep, 4, ":a\x7bb\x7bc".toList⟩ ∧
      ∃ error', (parse false ":a\x7bb\x7b;\x7d\x7d\x7d".toList).outcome = .error error' ∧
        error'.position = 4 ∧ error'.defect.reason = Defect.nestedTooDeep.reason := by
  have h : (parse false ":a\x7bb\x7bc".toList).outcome =
      .error ⟨.nestedTooDeep, 4, ":a\x7bb\x7bc".toList⟩ := rfl
  obtain ⟨-, -, hrecurs⟩ := (lenient_parse_error_iff_braceFault _).2 _ h
  exact ⟨h, hrecurs (by decide) _ (by decide)⟩

end AtomicCss.Style
