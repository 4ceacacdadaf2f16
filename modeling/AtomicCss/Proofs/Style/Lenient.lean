import AtomicCss.Style.Parser
import Mathlib.Data.List.TakeWhile

/-! # Lenient reading

A lenient reader refuses no declaration. What is left of reading is then one equation for each
kind of piece, outside a rule and inside the one that is open. -/

namespace AtomicCss.Style

/-- The trimmed texts before and after the first colon of a segment. A side that is missing is
empty. -/
def declarationOf (segment : Text) : Declaration :=
  ⟨Text.trim (segment.takeWhile (· ≠ ':')), Text.trim (segment.dropWhile (· ≠ ':')).tail⟩

/-- What a segment stands for where a declaration is expected: nothing if it is blank. -/
def declarationsOf (segment : Text) : List Declaration :=
  if segment.trim = [] then [] else [declarationOf segment]

theorem declarationOf_colon {name : Text} (h : ':' ∉ name) (value : Text) :
    declarationOf (name ++ ':' :: value) = ⟨name.trim, value.trim⟩ := by
  have hname : ∀ c ∈ name, decide (c ≠ ':') = true := fun c hc =>
    decide_eq_true fun heq => h (heq ▸ hc)
  rw [declarationOf, List.takeWhile_append_of_pos hname, List.dropWhile_append_of_pos hname]
  simp

theorem declarationOf_of_notMem {segment : Text} (h : ':' ∉ segment) :
    declarationOf segment = ⟨segment.trim, []⟩ := by
  have hsegment : ∀ c ∈ segment, decide (c ≠ ':') = true := fun c hc =>
    decide_eq_true fun heq => h (heq ▸ hc)
  rw [declarationOf, List.takeWhile_eq_self_iff.2 hsegment, List.dropWhile_eq_nil_iff.2 hsegment]
  rfl

theorem cut_eq_takeWhile_dropWhile (c : Char) (text : Text) :
    (Text.cut c text).1 = text.takeWhile (· ≠ c) ∧
      (Text.cut c text).2.getD [] = (text.dropWhile (· ≠ c)).tail := by
  induction text with
  | nil => simp [Text.cut]
  | cons d rest ih =>
      by_cases h : d = c
      · simp [Text.cut, h]
      · simpa [Text.cut, h] using ih

theorem ofSegment_eq_declarationOf (segment : Text) :
    Declaration.ofSegment segment = declarationOf segment := by
  obtain ⟨hname, hvalue⟩ := cut_eq_takeWhile_dropWhile ':' segment
  rw [declarationOf, ← hname, ← hvalue]
  rfl

/-- A lenient reader takes a segment for what it stands for. -/
@[simp]
theorem outcome_readDeclaration (start : Nat) (segment : Text) :
    (readDeclaration false start segment).outcome = .ok (declarationsOf segment) := by
  rw [declarationsOf, readDeclaration, ofSegment_eq_declarationOf]
  by_cases hblank : segment.all Text.isBlank
  · rw [if_pos hblank, if_pos (Text.trim_eq_nil_iff.2 hblank)]
    rfl
  · rw [if_neg hblank, if_neg fun htrim => hblank (Text.trim_eq_nil_iff.1 htrim)]
    split <;> rfl

variable (start : Nat) (rule : OpenRule) (segment last : Text) (rest : List Piece)

theorem outcome_readPieces_nil :
    (readPieces false start none [] last).outcome =
      .ok ((declarationsOf last).map .declaration) := by
  simp [readPieces, Except.map]

theorem outcome_readPieces_nil_inside :
    (readPieces false start (some rule) [] last).outcome =
      .error (.unclosedRule rule.selector, start + last.length) := rfl

theorem outcome_readPieces_semicolon :
    (readPieces false start none (⟨segment, .semicolon⟩ :: rest) last).outcome =
      (readPieces false (start + (segment.length + 1)) none rest last).outcome.map fun items =>
        (declarationsOf segment).map .declaration ++ items := by
  simp [readPieces, Piece.width, Except.bind]

theorem outcome_readPieces_semicolon_inside :
    (readPieces false start (some rule) (⟨segment, .semicolon⟩ :: rest) last).outcome =
      (readPieces false (start + (segment.length + 1))
        (some ⟨rule.selector, rule.declarations ++ declarationsOf segment⟩) rest last).outcome := by
  simp [readPieces, Piece.width, Except.bind]

theorem outcome_readPieces_opening :
    (readPieces false start none (⟨segment, .opening⟩ :: rest) last).outcome =
      (readPieces false (start + (segment.length + 1)) (some ⟨segment.trim, []⟩) rest
        last).outcome := rfl

theorem outcome_readPieces_opening_inside :
    (readPieces false start (some rule) (⟨segment, .opening⟩ :: rest) last).outcome =
      .error (.nestedTooDeep, start + segment.length) := rfl

theorem outcome_readPieces_closing :
    (readPieces false start none (⟨segment, .closing⟩ :: rest) last).outcome =
      .error (.unmatchedClose, start + segment.length) := rfl

theorem outcome_readPieces_closing_inside :
    (readPieces false start (some rule) (⟨segment, .closing⟩ :: rest) last).outcome =
      (readPieces false (start + (segment.length + 1)) none rest last).outcome.map fun items =>
        .rule ⟨rule.selector, rule.declarations ++ declarationsOf segment⟩ :: items := by
  simp [readPieces, Piece.width, Except.bind]

/-- The outcome of reading a whole text. -/
theorem outcome_parse (strict : Bool) (text : Text) :
    (parse strict text).outcome =
      (readPieces strict 0 none (pieces text).1 (pieces text).2).outcome.mapError
        fun (defect, position) => ⟨defect, position, text⟩ := rfl

end AtomicCss.Style
