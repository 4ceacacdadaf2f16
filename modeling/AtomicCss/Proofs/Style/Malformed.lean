import AtomicCss.Proofs.Outcome
import AtomicCss.Proofs.Style.Lenient
import Mathlib.Tactic.SplitIfs

/-! # Malformed declarations

A lenient reader keeps a declaration that has no name or no value, and gives one notice for it. A
strict reader does the same as a lenient one that gives no notice, and fails where a lenient one
gives any. -/

namespace AtomicCss

namespace Logged

variable {ε α β : Type} {strict lenient : Logged ε α}

/-- A strict reading beside a lenient one: it is the same if that gives no notice, and fails
otherwise. -/
def Refines (strict lenient : Logged ε α) : Prop :=
  if lenient.notices = [] then strict = lenient else ∃ error, strict.outcome = .error error

theorem refines_refl {reading : Logged ε α} (h : reading.notices = []) :
    Refines reading reading := by
  rw [Refines, if_pos h]

theorem Refines.map (h : Refines strict lenient) (f : α → β) :
    Refines (strict.map f) (lenient.map f) := by
  rw [Refines] at h
  by_cases hnotices : lenient.notices = []
  · rw [if_pos hnotices] at h
    rw [h]
    exact refines_refl hnotices
  · rw [if_neg hnotices] at h
    obtain ⟨error, herror⟩ := h
    have hmap : (lenient.map f).notices ≠ [] := hnotices
    rw [Refines, if_neg hmap]
    exact ⟨error, by rw [outcome_map, herror]; rfl⟩

theorem Refines.andThen (h : Refines strict lenient) {f g : α → Logged ε β}
    (hnext : ∀ a, Refines (f a) (g a)) : Refines (strict.andThen f) (lenient.andThen g) := by
  obtain ⟨notices, outcome⟩ := lenient
  rw [Refines] at h
  by_cases hnotices : notices = []
  · rw [if_pos hnotices] at h
    subst h hnotices
    cases outcome with
    | error error => exact refines_refl rfl
    | ok a => exact hnext a
  · rw [if_neg hnotices] at h
    obtain ⟨error, herror⟩ := h
    have hmore : (Logged.andThen ⟨notices, outcome⟩ g).notices ≠ [] := by
      cases outcome <;> simp [Logged.andThen, hnotices]
    rw [Refines, if_neg hmore]
    exact ⟨error, by rw [outcome_andThen, herror]; rfl⟩

end Logged

namespace Style

/-- The notices that a segment gives where a declaration is expected. -/
def noticesOf (segment : Text) : List Notice :=
  if segment.trim = [] ∨ (declarationOf segment).isComplete then []
  else [.malformedDeclaration segment.trim]

/-- The number of declarations without a name or without a value. -/
def malformedCount (declarations : List Declaration) : Nat :=
  declarations.countP fun declaration => !declaration.isComplete

/-- The declarations of an item: itself, or those of its block. -/
def Item.declarations : Item → List Declaration
  | declaration d => [d]
  | rule r => r.declarations

@[simp]
theorem malformedCount_nil : malformedCount [] = 0 := rfl

@[simp]
theorem malformedCount_append (first second : List Declaration) :
    malformedCount (first ++ second) = malformedCount first + malformedCount second :=
  List.countP_append

@[simp]
theorem flatMap_declarations_map (declarations : List Declaration) :
    (declarations.map Item.declaration).flatMap Item.declarations = declarations := by
  rw [List.flatMap_map]
  exact List.flatMap_singleton' declarations

/-! ## One segment -/

theorem readDeclaration_lenient (start : Nat) (segment : Text) :
    readDeclaration false start segment = ⟨noticesOf segment, .ok (declarationsOf segment)⟩ := by
  rw [noticesOf, declarationsOf, readDeclaration, ofSegment_eq_declarationOf]
  by_cases hblank : segment.all Text.isBlank
  · have htrim := Text.trim_eq_nil_iff.2 hblank
    simp only [hblank, htrim, if_true, true_or]
    rfl
  · have htrim : segment.trim ≠ [] := fun htrim => hblank (Text.trim_eq_nil_iff.1 htrim)
    simp only [hblank, htrim, Bool.false_eq_true, if_false, false_or]
    split_ifs <;> rfl

theorem length_noticesOf (segment : Text) :
    (noticesOf segment).length = malformedCount (declarationsOf segment) := by
  rw [noticesOf, declarationsOf]
  by_cases htrim : segment.trim = []
  · simp [htrim, malformedCount]
  · by_cases hcomplete : (declarationOf segment).isComplete <;>
      simp [htrim, hcomplete, malformedCount]

theorem notices_andThen_lenient {α : Type} (start : Nat) (segment : Text)
    (next : List Declaration → Logged (Defect × Nat) α) :
    ((readDeclaration false start segment).andThen next).notices =
      noticesOf segment ++ (next (declarationsOf segment)).notices := by
  rw [readDeclaration_lenient]
  rfl

/-! ## Strict readers -/

theorem refines_readDeclaration (start : Nat) (segment : Text) :
    Logged.Refines (readDeclaration true start segment) (readDeclaration false start segment) := by
  simp only [Logged.Refines, readDeclaration]
  split_ifs <;> simp_all [Logged.ok, Logged.fail]

theorem refines_readPieces (start : Nat) (inside : Option OpenRule) (ended : List Piece)
    (last : Text) :
    Logged.Refines (readPieces true start inside ended last)
      (readPieces false start inside ended last) := by
  induction ended generalizing start inside with
  | nil =>
      cases inside with
      | none => exact (refines_readDeclaration start last).map _
      | some rule => exact Logged.refines_refl rfl
  | cons piece rest ih =>
      obtain ⟨segment, delimiter⟩ := piece
      have hsegment := refines_readDeclaration start segment
      cases inside with
      | none =>
          cases delimiter with
          | semicolon => exact hsegment.andThen fun here => (ih _ _).map _
          | opening => exact ih _ _
          | closing => exact Logged.refines_refl rfl
      | some rule =>
          cases delimiter with
          | semicolon => exact hsegment.andThen fun here => ih _ _
          | opening => exact Logged.refines_refl rfl
          | closing => exact hsegment.andThen fun here => (ih _ _).map _

/-- A strict reader accepts the texts that a lenient one reads without a notice, and reads the same
items. -/
theorem strict_parse_eq_ok_iff {text : Text} {items : List Item} :
    (parse true text).outcome = .ok items ↔
      (parse false text).outcome = .ok items ∧ (parse false text).notices = [] := by
  have h := refines_readPieces 0 none (pieces text).1 (pieces text).2
  rw [Logged.Refines] at h
  rw [outcome_parse, outcome_parse, Outcome.mapError_eq_ok_iff, Outcome.mapError_eq_ok_iff]
  split_ifs at h with hnotices
  · rw [h]
    exact (and_iff_left hnotices).symm
  · obtain ⟨error, herror⟩ := h
    rw [herror]
    constructor
    · intro hok
      cases hok
    · rintro ⟨-, hnone⟩
      exact absurd hnone hnotices

/-- What any reader reads, a lenient one reads too. -/
theorem lenient_of_parse {strict : Bool} {text : Text} {items : List Item}
    (h : (parse strict text).outcome = .ok items) : (parse false text).outcome = .ok items := by
  cases strict with
  | false => exact h
  | true => exact (strict_parse_eq_ok_iff.1 h).1

/-! ## Counting notices -/

section

variable (start : Nat) (rule : OpenRule) (segment last : Text) (rest : List Piece)

theorem notices_readPieces_nil :
    (readPieces false start none [] last).notices = noticesOf last := by
  rw [readPieces, readDeclaration_lenient]
  rfl

theorem notices_readPieces_semicolon :
    (readPieces false start none (⟨segment, .semicolon⟩ :: rest) last).notices =
      noticesOf segment ++
        (readPieces false (start + (segment.length + 1)) none rest last).notices :=
  notices_andThen_lenient start segment _

theorem notices_readPieces_semicolon_inside :
    (readPieces false start (some rule) (⟨segment, .semicolon⟩ :: rest) last).notices =
      noticesOf segment ++
        (readPieces false (start + (segment.length + 1))
          (some ⟨rule.selector, rule.declarations ++ declarationsOf segment⟩) rest last).notices :=
  notices_andThen_lenient start segment _

theorem notices_readPieces_closing_inside :
    (readPieces false start (some rule) (⟨segment, .closing⟩ :: rest) last).notices =
      noticesOf segment ++
        (readPieces false (start + (segment.length + 1)) none rest last).notices :=
  notices_andThen_lenient start segment _

end

/-- The notices of a lenient reader are as many as the malformed declarations that it reads. The
induction is on the pieces; the declarations of the rule that is open were counted before. -/
theorem length_notices_readPieces {start : Nat} {inside : Option OpenRule} {ended : List Piece}
    {last : Text} {items : List Item}
    (h : (readPieces false start inside ended last).outcome = .ok items) :
    (readPieces false start inside ended last).notices.length +
        malformedCount (inside.elim [] OpenRule.declarations) =
      malformedCount (items.flatMap Item.declarations) := by
  induction ended generalizing start inside items with
  | nil =>
      cases inside with
      | none =>
          rw [outcome_readPieces_nil] at h
          rw [← Except.ok.inj h, notices_readPieces_nil, flatMap_declarations_map,
            length_noticesOf]
          rfl
      | some rule => rw [outcome_readPieces_nil_inside] at h; cases h
  | cons piece rest ih =>
      obtain ⟨segment, delimiter⟩ := piece
      cases inside with
      | none =>
          cases delimiter with
          | semicolon =>
              rw [outcome_readPieces_semicolon] at h
              obtain ⟨others, hothers, rfl⟩ := Outcome.map_eq_ok_iff.1 h
              rw [notices_readPieces_semicolon, List.flatMap_append, malformedCount_append,
                flatMap_declarations_map, ← ih hothers, List.length_append, length_noticesOf]
              exact Nat.add_assoc _ _ _
          | opening =>
              rw [outcome_readPieces_opening] at h
              exact ih h
          | closing => rw [outcome_readPieces_closing] at h; cases h
      | some rule =>
          cases delimiter with
          | semicolon =>
              rw [outcome_readPieces_semicolon_inside] at h
              rw [notices_readPieces_semicolon_inside, ← ih h, List.length_append,
                length_noticesOf]
              simp only [Option.elim_some, malformedCount_append]
              omega
          | opening => rw [outcome_readPieces_opening_inside] at h; cases h
          | closing =>
              rw [outcome_readPieces_closing_inside] at h
              obtain ⟨others, hothers, rfl⟩ := Outcome.map_eq_ok_iff.1 h
              have hrest := ih hothers
              rw [notices_readPieces_closing_inside, List.flatMap_cons, malformedCount_append,
                ← hrest, List.length_append, length_noticesOf]
              simp only [Item.declarations, Option.elim_some, Option.elim_none,
                malformedCount_append, malformedCount_nil]
              omega

/-- A lenient reader gives one notice for each malformed declaration of the items it reads. -/
theorem length_notices_parse {text : Text} {items : List Item}
    (h : (parse false text).outcome = .ok items) :
    (parse false text).notices.length = malformedCount (items.flatMap Item.declarations) := by
  rw [outcome_parse] at h
  exact length_notices_readPieces (Outcome.mapError_eq_ok_iff.1 h)

end Style
end AtomicCss
