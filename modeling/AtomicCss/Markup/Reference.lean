import AtomicCss.Markup.ReferenceTable

/-! # Character references

`decodeReferences` replaces the character references in a text. What is no reference stays as
it is. In an attribute, a legacy name without its semicolon is no reference when an equals sign,
a letter or a digit follows. -/

namespace AtomicCss.Markup

/-- The characters that the numeric references from 128 to 159 stand for. -/
def controlReplacements : List Nat :=
  [0x20AC, 0x81, 0x201A, 0x0192, 0x201E, 0x2026, 0x2020, 0x2021,
    0x02C6, 0x2030, 0x0160, 0x2039, 0x0152, 0x8D, 0x017D, 0x8F,
    0x90, 0x2018, 0x2019, 0x201C, 0x201D, 0x2022, 0x2013, 0x2014,
    0x02DC, 0x2122, 0x0161, 0x203A, 0x0153, 0x9D, 0x017E, 0x0178]

/-- The replacement character. -/
def replacementChar : Char := '\uFFFD'

/-- The character of a numeric reference. Zero, surrogates and numbers that are too large give
the replacement character. -/
def charOfNumber (n : Nat) : Char :=
  if n = 0 ∨ 0x10FFFF < n ∨ (0xD800 ≤ n ∧ n ≤ 0xDFFF) then replacementChar
  else if 0x80 ≤ n ∧ n ≤ 0x9F then Char.ofNat (controlReplacements.getD (n - 0x80) n)
  else Char.ofNat n

/-- The value of a hexadecimal digit. -/
def hexValue? (c : Char) : Option Nat :=
  if '0' ≤ c ∧ c ≤ '9' then some (c.toNat - '0'.toNat)
  else if 'a' ≤ c ∧ c ≤ 'f' then some (c.toNat - 'a'.toNat + 10)
  else if 'A' ≤ c ∧ c ≤ 'F' then some (c.toNat - 'A'.toNat + 10)
  else none

/-- The number at the start of a text in this base, and how many digits it has. -/
def leadingNumber (base : Nat) (text : Text) : Nat × Nat :=
  let digits := text.map hexValue? |>.takeWhile fun value => value.any (· < base)
  (digits.foldl (fun n value => base * n + value.getD 0) 0, digits.length)

/-- How many characters a semicolon at the start of a text takes. -/
def semicolonWidth (text : Text) : Nat := if text.head? = some ';' then 1 else 0

/-- The numeric reference whose digits start the text. -/
def readNumeric? (base : Nat) (text : Text) : Option (Text × Nat) :=
  let (n, size) := leadingNumber base text
  if size = 0 then none
  else some ([charOfNumber n], size + semicolonWidth (text.drop size))

/-- The longest legacy name that starts the text. -/
def longestLegacy? (text : Text) : Option Text :=
  (legacyNames.filter fun name => name.isPrefixOf text).foldl
    (fun best name => match best with
      | some longest => if longest.length < name.length then some name else best
      | none => some name) none

/-- Whether a character keeps a name without semicolon from being a reference in an
attribute. -/
def blocksLegacy (c : Char) : Bool := c = '=' || c.isAlphanum

/-- The named reference whose name starts the text. -/
def readNamed? (inAttribute : Bool) (text : Text) : Option (Text × Nat) :=
  let name := text.takeWhile Char.isAlphanum
  match if (text.drop name.length).head? = some ';' then OrderedMap.get? name namedReferences
      else none with
  | some characters => some (characters, name.length + 1)
  | none =>
      match longestLegacy? text with
      | none => none
      | some legacy =>
          if inAttribute && (text.drop legacy.length).head?.any blocksLegacy then none
          else (OrderedMap.get? legacy namedReferences).map fun characters =>
            (characters, legacy.length)

/-- The reference that follows an ampersand: what it stands for, and how many characters it
takes after the ampersand. -/
def readReference? (inAttribute : Bool) : Text → Option (Text × Nat)
  | '#' :: c :: rest =>
      if c = 'x' ∨ c = 'X' then
        (readNumeric? 16 rest).map fun (characters, size) => (characters, size + 2)
      else (readNumeric? 10 (c :: rest)).map fun (characters, size) => (characters, size + 1)
  | text => readNamed? inAttribute text

/-- Decodes a text after leaving out its first `skipped` characters. -/
def decodeAfter (inAttribute : Bool) : Nat → Text → Text
  | _, [] => []
  | skipped + 1, _ :: rest => decodeAfter inAttribute skipped rest
  | 0, c :: rest =>
      if c = '&' then
        match readReference? inAttribute rest with
        | some (characters, size) => characters ++ decodeAfter inAttribute size rest
        | none => c :: decodeAfter inAttribute 0 rest
      else c :: decodeAfter inAttribute 0 rest

/-- A text with its character references replaced. -/
def decodeReferences (inAttribute : Bool) (text : Text) : Text := decodeAfter inAttribute 0 text

end AtomicCss.Markup
