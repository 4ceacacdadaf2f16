import AtomicCss.Charset.ByteOrder
import AtomicCss.Text.Basic

/-! # Tables of characters

A table numbers characters: each of its runs gives the number of its first character, and the
others follow. A charset with characters of several bytes is given by what one character at a
time is read from and written as. -/

namespace AtomicCss.Charset

/-- Runs of characters with the number of the first one. The earlier run counts if two of them
have a number or a character in common. -/
abbrev CharTable := List (Nat × String)

namespace CharTable

/-- The character with a number. -/
def char? (table : CharTable) (number : Nat) : Option Char :=
  table.findSome? fun (first, characters) =>
    if first ≤ number ∧ number < first + characters.length then
      characters.toList[number - first]?
    else none

/-- The number of a character. -/
def number? (table : CharTable) (c : Char) : Option Nat :=
  table.findSome? fun (first, characters) =>
    (characters.toList.idxOf? c).map fun place => first + place

end CharTable

/-- Numbers that are left over: those from `first` on which are in none of the ranges. Each range
is given by its first number and its size, and they stand in ascending order. -/
structure Remainder where
  first : Nat
  ranges : List (Nat × Nat)

namespace Remainder

/-- What is left over by ranges in any order. -/
def of (first : Nat) (ranges : List (Nat × Nat)) : Remainder :=
  ⟨first, ranges.mergeSort fun a b => a.1 ≤ b.1⟩

/-- How many numbers below `n` are left over. -/
def countBelow (remainder : Remainder) (n : Nat) : Nat :=
  remainder.ranges.foldl (fun count (first, size) => count - min (n - first) size)
    (n - remainder.first)

/-- The number that is left over and has `place` others before it. -/
def nth (remainder : Remainder) (place : Nat) : Nat :=
  remainder.ranges.foldl (fun n (first, size) => if first ≤ n then n + size else n)
    (remainder.first + place)

/-- The characters of a table as ranges. -/
def rangesOf (table : CharTable) : List (Nat × Nat) :=
  table.flatMap fun (_, characters) => characters.toList.map fun c => (c.toNat, 1)

end Remainder

/-- How single characters are read from the start of bytes, and how they are written. In some charsets
there are also bytes for two characters that stand together. -/
structure ByteSequences where
  /-- The first character and the bytes after it. -/
  first? : Bytes → Option (Char × Bytes)
  bytes? : Char → Option Bytes
  pairs : List (Char × Char × Bytes) := []
  /-- Whether a null character is left out after a character that may start a pair. -/
  dropsNull : Bool := false

namespace ByteSequences

/-- The two characters at the start of bytes, and the bytes after them. -/
def firstPair? (sequences : ByteSequences) (bytes : Bytes) : Option (Char × Char × Bytes) :=
  (sequences.pairs.find? fun (_, _, pair) => pair.isPrefixOf bytes).map fun (c, d, pair) =>
    (c, d, bytes.drop pair.length)

/-- The bytes of two characters that stand together. -/
def pairBytes? (sequences : ByteSequences) (c d : Char) : Option Bytes :=
  match sequences.pairs.find? fun (first, second, _) => first = c ∧ second = d with
  | some (_, _, pair) => some pair
  | none =>
      if sequences.dropsNull ∧ d = '\x00' ∧ sequences.pairs.any (·.1 = c) then sequences.bytes? c
      else none

/-- Reads at most `limit` characters, which have to be all. -/
def decodeUpTo? (sequences : ByteSequences) : Nat → Bytes → Option Text
  | _, [] => some []
  | 0, _ => none
  | limit + 1, bytes =>
      match sequences.firstPair? bytes, sequences.first? bytes with
      | some (c, d, rest), _ => (decodeUpTo? sequences limit rest).map fun text => c :: d :: text
      | none, some (c, rest) => (decodeUpTo? sequences limit rest).map (c :: ·)
      | none, none => none

/-- The text that bytes stand for. No character is without a byte. -/
def decode? (sequences : ByteSequences) (bytes : Bytes) : Option Text :=
  sequences.decodeUpTo? bytes.length bytes

/-- The bytes of a text. -/
def encode? (sequences : ByteSequences) : Text → Option Bytes
  | [] => some []
  | [c] => sequences.bytes? c
  | c :: d :: rest =>
      match sequences.pairBytes? c d with
      | some pair => (encode? sequences rest).map (pair ++ ·)
      | none =>
          match sequences.bytes? c with
          | some bytes => (encode? sequences (d :: rest)).map (bytes ++ ·)
          | none => none

end ByteSequences

/-- The number of two bytes. -/
def pairNumber (a b : UInt8) : Nat := 256 * a.toNat + b.toNat

/-- The two bytes of a number. -/
def pairBytes (n : Nat) : Bytes := [(n / 256).toUInt8, (n % 256).toUInt8]

/-- The character of a byte below 80, which is the one of ASCII. -/
def asciiChar (byte : UInt8) : Char := Char.ofNat byte.toNat

/-- The sequences of one byte for ASCII and of two bytes for the characters that have a number. -/
def pairSequences (char? : Nat → Option Char) (number? : Char → Option Nat) : ByteSequences where
  first?
    | [] => none
    | a :: rest =>
        if a < 0x80 then some (asciiChar a, rest)
        else
          match rest with
          | [] => none
          | b :: rest => (char? (pairNumber a b)).map fun c => (c, rest)
  bytes? c :=
    if c.toNat < 0x80 then some [c.toNat.toUInt8] else (number? c).map pairBytes

end AtomicCss.Charset
