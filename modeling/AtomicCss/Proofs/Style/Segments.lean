import AtomicCss.Style.Segment
import Mathlib.Tactic.SplitIfs

/-! # Cutting and joining segments

A text is cut at its delimiters in exactly one way: `pieces` gives segments without delimiters,
and it recovers any pieces of that kind from the text that they join to. -/

namespace AtomicCss.Style

/-- A text without semicolons and braces. -/
def IsPlain (text : Text) : Prop := ∀ c ∈ text, c ≠ ';' ∧ c ≠ '{' ∧ c ≠ '}'

instance (text : Text) : Decidable (IsPlain text) :=
  List.decidableBAll (fun c => c ≠ ';' ∧ c ≠ '{' ∧ c ≠ '}') text

theorem Delimiter.ofChar?_eq_none_iff {c : Char} :
    ofChar? c = none ↔ c ≠ ';' ∧ c ≠ '{' ∧ c ≠ '}' := by
  rw [ofChar?]
  split_ifs <;> simp_all

@[simp]
theorem Delimiter.ofChar?_toChar (delimiter : Delimiter) :
    ofChar? delimiter.toChar = some delimiter := by
  cases delimiter <;> rfl

@[simp]
theorem isPlain_nil : IsPlain [] := by
  intro c hc
  exact absurd hc List.not_mem_nil

theorem isPlain_cons {c : Char} {text : Text} :
    IsPlain (c :: text) ↔ Delimiter.ofChar? c = none ∧ IsPlain text := by
  rw [Delimiter.ofChar?_eq_none_iff]
  simp [IsPlain]

/-- A plain text is one segment. -/
theorem pieces_of_isPlain {text : Text} (h : IsPlain text) : pieces text = ([], text) := by
  induction text with
  | nil => rfl
  | cons c rest ih =>
      obtain ⟨hc, hrest⟩ := isPlain_cons.1 h
      rw [pieces, hc, ih hrest]

/-- A plain text before a delimiter is the first piece. -/
theorem pieces_append_delimiter {segment : Text} (h : IsPlain segment) (delimiter : Delimiter)
    (rest : Text) :
    pieces (segment ++ delimiter.toChar :: rest) =
      (⟨segment, delimiter⟩ :: (pieces rest).1, (pieces rest).2) := by
  induction segment with
  | nil => simp [pieces]
  | cons c segment ih =>
      obtain ⟨hc, hsegment⟩ := isPlain_cons.1 h
      rw [List.cons_append, pieces, hc, ih hsegment]

@[simp]
theorem joinPieces_nil (last : Text) : joinPieces [] last = last := rfl

@[simp]
theorem joinPieces_cons (piece : Piece) (ended : List Piece) (last : Text) :
    joinPieces (piece :: ended) last =
      piece.segment ++ piece.delimiter.toChar :: joinPieces ended last := by
  simp [joinPieces]

theorem joinPieces_append (first second : List Piece) (last : Text) :
    joinPieces (first ++ second) last = joinPieces first [] ++ joinPieces second last := by
  simp [joinPieces]

theorem joinPieces_eq_append (ended : List Piece) (last : Text) :
    joinPieces ended last = joinPieces ended [] ++ last := by
  simp [joinPieces]

theorem length_joinPieces_cons (piece : Piece) (ended : List Piece) :
    (joinPieces (piece :: ended) []).length = piece.width + (joinPieces ended []).length := by
  simp only [joinPieces_cons, List.length_append, List.length_cons, Piece.width]
  omega

/-- Joining loses no cut. -/
theorem pieces_joinPieces {ended : List Piece} {last : Text}
    (hended : ∀ piece ∈ ended, IsPlain piece.segment) (hlast : IsPlain last) :
    pieces (joinPieces ended last) = (ended, last) := by
  induction ended with
  | nil => exact pieces_of_isPlain hlast
  | cons piece ended ih =>
      have hrest := ih fun other hother => hended other (List.mem_cons_of_mem piece hother)
      rw [joinPieces_cons, pieces_append_delimiter (hended piece List.mem_cons_self), hrest]

/-- Cutting leaves no delimiter inside a segment. -/
theorem isPlain_pieces (text : Text) :
    (∀ piece ∈ (pieces text).1, IsPlain piece.segment) ∧ IsPlain (pieces text).2 := by
  induction text with
  | nil => simp [pieces]
  | cons c rest ih =>
      obtain ⟨hended, hlast⟩ := ih
      cases hc : Delimiter.ofChar? c with
      | some delimiter =>
          simp only [pieces, hc]
          refine ⟨?_, hlast⟩
          intro piece hpiece
          rcases List.mem_cons.1 hpiece with rfl | hpiece
          · exact isPlain_nil
          · exact hended piece hpiece
      | none =>
          rcases hp : pieces rest with ⟨_ | ⟨first, ended⟩, last⟩
          · simp only [hp] at hlast
            simp only [pieces, hc, hp]
            exact ⟨by simp, isPlain_cons.2 ⟨hc, hlast⟩⟩
          · simp only [hp] at hended hlast
            simp only [pieces, hc, hp]
            refine ⟨?_, hlast⟩
            intro piece hpiece
            rcases List.mem_cons.1 hpiece with rfl | hpiece
            · exact isPlain_cons.2 ⟨hc, hended first List.mem_cons_self⟩
            · exact hended piece (List.mem_cons_of_mem first hpiece)

/-- A delimiter between two texts ends the last segment of the first one. -/
theorem pieces_append_toChar (before : Text) (delimiter : Delimiter) (after : Text) :
    pieces (before ++ delimiter.toChar :: after) =
      ((pieces before).1 ++ ⟨(pieces before).2, delimiter⟩ :: (pieces after).1,
        (pieces after).2) := by
  obtain ⟨hended, hlast⟩ := isPlain_pieces before
  obtain ⟨hended', hlast'⟩ := isPlain_pieces after
  have htext : before ++ delimiter.toChar :: after =
      joinPieces ((pieces before).1 ++ ⟨(pieces before).2, delimiter⟩ :: (pieces after).1)
        (pieces after).2 := by
    calc
      before ++ delimiter.toChar :: after =
          joinPieces (pieces before).1 (pieces before).2 ++
            delimiter.toChar :: joinPieces (pieces after).1 (pieces after).2 := by
        rw [joinPieces_pieces, joinPieces_pieces]
      _ = joinPieces (pieces before).1 [] ++
            joinPieces (⟨(pieces before).2, delimiter⟩ :: (pieces after).1) (pieces after).2 := by
        rw [joinPieces_cons, joinPieces_eq_append (pieces before).1, List.append_assoc]
      _ = _ := (joinPieces_append _ _ _).symm
  rw [htext]
  apply pieces_joinPieces _ hlast'
  intro piece hpiece
  rcases List.mem_append.1 hpiece with hpiece | hpiece
  · exact hended piece hpiece
  · rcases List.mem_cons.1 hpiece with rfl | hpiece
    · exact hlast
    · exact hended' piece hpiece

end AtomicCss.Style
