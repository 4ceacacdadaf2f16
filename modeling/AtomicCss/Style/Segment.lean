import AtomicCss.Style.Basic

/-! # Segments of a style

A semicolon, an opening brace and a closing brace end a segment wherever they stand; there are
no strings or comments that could hide them. `pieces` cuts a text into its segments, and
`joinPieces` is its inverse. -/

namespace AtomicCss.Style

/-- What ends a segment. -/
inductive Delimiter where
  | semicolon
  | opening
  | closing
  deriving DecidableEq, Repr

/-- The character of a delimiter. -/
def Delimiter.toChar : Delimiter → Char
  | semicolon => ';'
  | opening => '{'
  | closing => '}'

/-- The delimiter that a character is. -/
def Delimiter.ofChar? (c : Char) : Option Delimiter :=
  if c = ';' then some semicolon
  else if c = '{' then some opening
  else if c = '}' then some closing
  else none

/-- A segment with the delimiter that ends it. -/
structure Piece where
  segment : Text
  delimiter : Delimiter
  deriving DecidableEq, Repr

/-- The number of characters of a piece, with its delimiter. -/
def Piece.width (piece : Piece) : Nat := piece.segment.length + 1

/-- A text cut at its delimiters: the ended segments, and the last one. -/
def pieces : Text → List Piece × Text
  | [] => ([], [])
  | c :: rest =>
      match Delimiter.ofChar? c, pieces rest with
      | some delimiter, (ended, last) => (⟨[], delimiter⟩ :: ended, last)
      | none, ([], last) => ([], c :: last)
      | none, (piece :: ended, last) =>
          (⟨c :: piece.segment, piece.delimiter⟩ :: ended, last)

/-- The text with these pieces and this last segment. -/
def joinPieces (ended : List Piece) (last : Text) : Text :=
  ended.flatMap (fun piece => piece.segment ++ [piece.delimiter.toChar]) ++ last

theorem Delimiter.toChar_of_ofChar? {c : Char} {delimiter : Delimiter}
    (h : ofChar? c = some delimiter) : delimiter.toChar = c := by
  unfold ofChar? at h
  split at h
  · simp_all [← Option.some.inj h, toChar]
  · split at h
    · simp_all [← Option.some.inj h, toChar]
    · split at h
      · simp_all [← Option.some.inj h, toChar]
      · simp at h

/-- Cutting loses no character. -/
theorem joinPieces_pieces (text : Text) : joinPieces (pieces text).1 (pieces text).2 = text := by
  induction text with
  | nil => rfl
  | cons c rest ih =>
      rcases hd : Delimiter.ofChar? c with _ | delimiter <;>
        rcases hp : pieces rest with ⟨_ | ⟨piece, ended⟩, last⟩ <;>
        simp_all [pieces, joinPieces]
      all_goals exact Delimiter.toChar_of_ofChar? hd

end AtomicCss.Style
