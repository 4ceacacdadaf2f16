import AtomicCss.Charset.Japanese
import AtomicCss.Charset.JisX0213Table

/-! # JIS X 0213

The standard has two planes of 94 rows. The first one has the characters of JIS X 0208 in their
places. Its editions of 2000 and 2004 differ in a few characters. -/

namespace AtomicCss.Charset.JisX0213

/-- An edition of the standard. -/
inductive Edition where
  | year2000
  | year2004
  deriving DecidableEq, Repr

/-- The characters that the first plane adds to JIS X 0208. -/
def Edition.firstTable : Edition → CharTable
  | year2000 => jisX0213First
  | year2004 => jisX0213First ++ jisX0213Added

/-- The characters of the second plane. -/
def Edition.secondTable : Edition → CharTable
  | year2000 => (0xFDBB, "鬝") :: jisX0213Second
  | year2004 => (0xFDBB, "鬜") :: jisX0213Second

/-- A character that only the other edition has. -/
def Edition.isForeign (edition : Edition) (c : Char) : Bool :=
  match edition with
  | year2000 => c = '鬜' || (jisX0213Added.number? c).isSome
  | year2004 => false

variable (edition : Edition)

/-- The character with a number in the first plane. -/
def firstChar? (n : Nat) : Option Char := jisX0208.char? n <|> edition.firstTable.char? n

/-- The number of a character in the first plane. -/
def firstNumber? (c : Char) : Option Nat := edition.firstTable.number? c <|> jisX0208.number? c

/-- The pairs of characters with their bytes, which `write` makes of a number. -/
def pairsAs (write : Nat → Bytes) : List (Char × Char × Bytes) :=
  jisX0213Pairs.map fun (c, d, n) => (c, d, write n)

/-- EUC-JP with both planes. The second plane stands after 8F, where JIS X 0212 is read too. -/
def euc : ByteSequences where
  first?
    | [] => none
    | a :: rest =>
        if a < 0x80 then some (asciiChar a, rest)
        else
          match rest with
          | [] => none
          | b :: rest =>
              if a = 0x8E then (katakana? b).map fun c => (c, rest)
              else if a = 0x8F then
                match rest with
                | [] => none
                | c :: rest =>
                    let n := pairNumber b c
                    (edition.secondTable.char? n <|> jisX0212.char? n).map fun c => (c, rest)
              else (firstChar? edition (pairNumber a b)).map fun c => (c, rest)
  bytes? c :=
    if c.toNat < 0x80 then some [c.toNat.toUInt8]
    else if edition.isForeign c then none
    else
      (firstNumber? edition c).map pairBytes <|>
        (katakanaByte? c).map (fun byte => [0x8E, byte]) <|>
        (edition.secondTable.number? c <|> jisX0212.number? c).map fun n => 0x8F :: pairBytes n
  pairs := pairsAs pairBytes
  dropsNull := true

/-! ## Shift JIS -/

/-- The rows of the second plane, in the order in which Shift JIS puts them after the first
plane. -/
def secondRows : List Nat := [1, 8, 3, 4, 5, 12, 13, 14, 15] ++ (List.range 17).map (78 + ·)

/-- The two bytes of a place in a row, if the rows of both planes are counted from 0. -/
def shiftedPair (row place : Nat) : Bytes :=
  [(row / 2 + (if row < 62 then 0x81 else 0xC1)).toUInt8,
    (shiftedByte (row % 2 * 94 + place)).toUInt8]

/-- The bytes of a number in the first plane. -/
def shiftFirst (n : Nat) : Bytes := shiftedPair (n / 256 - 0xA1) (n % 256 - 0xA1)

/-- The bytes of a number in the second plane. -/
def shiftSecond? (n : Nat) : Option Bytes :=
  (secondRows.idxOf? (n / 256 - 0xA0)).map fun place => shiftedPair (94 + place) (n % 256 - 0xA1)

/-- The character of two bytes. -/
def unshiftChar? (a b : UInt8) : Option Char :=
  match shiftedPlace? b with
  | none => none
  | some place =>
      if (0x81 ≤ a ∧ a < 0xA0) ∨ (0xE0 ≤ a ∧ a < 0xFD) then
        let row := 2 * (a.toNat - (if a < 0xA0 then 0x81 else 0xC1)) + place / 94
        let column := 0xA1 + place % 94
        if row < 94 then firstChar? edition (256 * (0xA1 + row) + column)
        else
          (secondRows[row - 94]?).bind fun row =>
            edition.secondTable.char? (256 * (0xA0 + row) + column)
      else none

/-- The two characters of ASCII that have given their bytes to others, with their own bytes. -/
def movedBytes : List (Char × UInt8 × UInt8) := [('\\', 0x81, 0x5F), ('~', 0x81, 0xB0)]

/-- The character of one byte. -/
def romanChar? (a : UInt8) : Option Char :=
  if a = 0x5C then some '¥' else if a = 0x7E then some '‾'
  else if a < 0x80 then some (asciiChar a)
  else katakana? a

/-- Shift JIS with both planes. -/
def shift : ByteSequences where
  first?
    | [] => none
    | a :: rest =>
        match romanChar? a, rest with
        | some c, _ => some (c, rest)
        | none, [] => none
        | none, b :: rest =>
            match movedBytes.find? fun (_, first, second) => a = first ∧ b = second with
            | some (c, _) => some (c, rest)
            | none => (unshiftChar? edition a b).map fun c => (c, rest)
  bytes? c :=
    match movedBytes.find? fun (moved, _) => c = moved with
    | some (_, first, second) => some [first, second]
    | none =>
        (romanByte? c).map (fun byte => [byte]) <|>
          (katakanaByte? c).map (fun byte => [byte]) <|>
          if c = '＼' ∨ c = '～' then none
          else
            (firstNumber? edition c).map shiftFirst <|>
              (edition.secondTable.number? c).bind shiftSecond?
  pairs := pairsAs shiftFirst
  dropsNull := true

end AtomicCss.Charset.JisX0213
