import AtomicCss.Proofs.Style.Segments
import AtomicCss.Style.Parser

/-! # Reading piece by piece

The reader takes a piece, and then the others with what the piece has left: the items that are
complete, and the rule that is open. So the pieces in front can be read first, and the others from
where these end. Where a text starts matters only for the place at which a fault is found. -/

namespace AtomicCss.Style

/-- What reading some pieces leaves: the items that are complete, and the rule that is open. -/
structure Progress where
  items : List Item
  inside : Option OpenRule

/-- Reads one piece, which starts at `start`. -/
def readPiece (strict : Bool) (start : Nat) (inside : Option OpenRule) (piece : Piece) :
    Logged (Defect × Nat) Progress :=
  match piece.delimiter, inside with
  | .semicolon, none =>
      (readDeclaration strict start piece.segment).map fun here =>
        ⟨here.map .declaration, none⟩
  | .semicolon, some rule =>
      (readDeclaration strict start piece.segment).map fun here =>
        ⟨[], some ⟨rule.selector, rule.declarations ++ here⟩⟩
  | .opening, none => .ok ⟨[], some ⟨piece.segment.trim, []⟩⟩
  | .opening, some _ => .fail (.nestedTooDeep, start + piece.segment.length)
  | .closing, none => .fail (.unmatchedClose, start + piece.segment.length)
  | .closing, some rule =>
      (readDeclaration strict start piece.segment).map fun here =>
        ⟨[.rule ⟨rule.selector, rule.declarations ++ here⟩], none⟩

/-- Reads pieces one after the other, the first of which starts at `start`. -/
def readFront (strict : Bool) (start : Nat) (inside : Option OpenRule) :
    List Piece → Logged (Defect × Nat) Progress
  | [] => .ok ⟨[], inside⟩
  | piece :: rest =>
      (readPiece strict start inside piece).andThen fun first =>
        (readFront strict (start + piece.width) first.inside rest).map fun others =>
          ⟨first.items ++ others.items, others.inside⟩

variable (strict : Bool) (start : Nat) (inside : Option OpenRule)

/-! ## The pieces in front -/

theorem readPieces_cons (piece : Piece) (rest : List Piece) (last : Text) :
    readPieces strict start inside (piece :: rest) last =
      (readPiece strict start inside piece).andThen fun first =>
        (readPieces strict (start + piece.width) first.inside rest last).map fun items =>
          first.items ++ items := by
  obtain ⟨segment, delimiter⟩ := piece
  cases inside with
  | none =>
      cases delimiter with
      | semicolon =>
          simp only [readPiece, Logged.andThen_map]
          rfl
      | opening => exact (Logged.map_id _).symm
      | closing => rfl
  | some rule =>
      cases delimiter with
      | semicolon =>
          simp only [readPiece, Logged.andThen_map, List.nil_append, Logged.map_id]
          rfl
      | opening => rfl
      | closing =>
          simp only [readPiece, Logged.andThen_map]
          rfl

/-- What the pieces in front leave is where the reader goes on with the others. -/
theorem readPieces_append (front rest : List Piece) (last : Text) :
    readPieces strict start inside (front ++ rest) last =
      (readFront strict start inside front).andThen fun read =>
        (readPieces strict (start + (joinPieces front []).length) read.inside rest last).map
          fun items => read.items ++ items := by
  induction front generalizing start inside with
  | nil => exact (Logged.map_id _).symm
  | cons piece front ih =>
      simp only [List.cons_append, readPieces_cons, readFront, ih, length_joinPieces_cons,
        Nat.add_assoc, Logged.andThen_assoc, Logged.andThen_map, Logged.map_andThen, Logged.map_map,
        List.append_assoc]

/-! ## Where a text starts -/

/-- A fault that is found further on. -/
def shift (offset : Nat) (fault : Defect × Nat) : Defect × Nat := (fault.1, fault.2 + offset)

variable (offset : Nat)

theorem readDeclaration_shift (segment : Text) :
    readDeclaration strict (start + offset) segment =
      (readDeclaration strict start segment).mapError (shift offset) := by
  simp only [readDeclaration]
  split_ifs <;> rfl

theorem readPiece_shift (piece : Piece) :
    readPiece strict (start + offset) inside piece =
      (readPiece strict start inside piece).mapError (shift offset) := by
  have hplace : start + offset + piece.segment.length = start + piece.segment.length + offset := by
    omega
  obtain ⟨segment, delimiter⟩ := piece
  cases inside <;> cases delimiter <;>
    simp only [readPiece, readDeclaration_shift, Logged.mapError_map, hplace] <;> rfl

/-- A text that starts further on is read alike, and its fault is found further on. -/
theorem readPieces_shift (ended : List Piece) (last : Text) :
    readPieces strict (start + offset) inside ended last =
      (readPieces strict start inside ended last).mapError (shift offset) := by
  induction ended generalizing start inside with
  | nil =>
      cases inside with
      | none => rw [readPieces, readPieces, readDeclaration_shift, Logged.mapError_map]
      | some rule =>
          have hplace : start + offset + last.length = start + last.length + offset := by omega
          rw [readPieces, readPieces, hplace]
          rfl
  | cons piece rest ih =>
      have hnext : start + offset + piece.width = start + piece.width + offset := by omega
      simp only [readPieces_cons, readPiece_shift, hnext, ih, Logged.mapError_andThen,
        Logged.mapError_map]

end AtomicCss.Style
