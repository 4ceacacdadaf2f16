import AtomicCss.Charset.JapaneseTable

/-! # Japanese charsets

The characters of JIS X 0208 stand in 94 rows of 94 places. EUC-JP writes row and place as two
bytes from A1 on; Shift JIS puts two rows into the places of one first byte. Both have the
half-width katakana as well. -/

namespace AtomicCss.Charset

/-- The half-width katakana with this byte, which is one from A1 to DF. -/
def katakana? (byte : UInt8) : Option Char :=
  if 0xA1 ≤ byte ∧ byte ≤ 0xDF then some (Char.ofNat (0xFF61 + (byte.toNat - 0xA1))) else none

/-- The byte of a half-width katakana. -/
def katakanaByte? (c : Char) : Option UInt8 :=
  if 0xFF61 ≤ c.toNat ∧ c.toNat ≤ 0xFF9F then some (0xA1 + (c.toNat - 0xFF61)).toUInt8 else none

/-- The byte below 80 that a character is written as: its own in ASCII, and two signs have that
of another one. -/
def romanByte? (c : Char) : Option UInt8 :=
  if c.toNat < 0x80 then some c.toNat.toUInt8
  else if c = '¥' then some 0x5C
  else if c = '‾' then some 0x7E
  else none

/-- EUC-JP: 8E stands before a katakana, and 8F before a character of JIS X 0212. -/
def eucJp : ByteSequences where
  first?
    | [] => none
    | a :: rest =>
        if a < 0x80 then some (asciiChar a, rest)
        else
          match rest with
          | [] => none
          | b :: rest =>
              if a = 0x8E then (katakana? b).map fun c => (c, rest)
              else if a = 0x8F then
                match rest with
                | [] => none
                | c :: rest => (jisX0212.char? (pairNumber b c)).map fun c => (c, rest)
              else (jisX0208.char? (pairNumber a b)).map fun c => (c, rest)
  bytes? c :=
    (romanByte? c).map (fun byte => [byte]) <|>
      (katakanaByte? c).map (fun byte => [0x8E, byte]) <|>
      (jisX0208.number? c).map pairBytes <|>
      (jisX0212.number? c).map fun n => 0x8F :: pairBytes n

/-- The place among those of a first byte that a second byte stands for. -/
def shiftedPlace? (byte : UInt8) : Option Nat :=
  if 0x40 ≤ byte ∧ byte < 0x7F then some (byte.toNat - 0x40)
  else if 0x7F < byte ∧ byte < 0xFD then some (byte.toNat - 0x41)
  else none

/-- The second byte of a place. -/
def shiftedByte (place : Nat) : Nat := if place < 63 then 0x40 + place else 0x41 + place

/-- The number in JIS X 0208 of two bytes of Shift JIS. -/
def unshift? (a b : UInt8) : Option Nat :=
  match shiftedPlace? b with
  | none => none
  | some place =>
      if (0x81 ≤ a ∧ a < 0xA0) ∨ (0xE0 ≤ a ∧ a < 0xF0) then
        let row := 2 * (a.toNat - (if a < 0xA0 then 0x81 else 0xC1)) + place / 94
        some (256 * (0xA1 + row) + 0xA1 + place % 94)
      else none

/-- The number of two bytes of Shift JIS for a number in JIS X 0208. -/
def shiftNumber (n : Nat) : Nat :=
  let row := n / 256 - 0xA1
  let place := n % 256 - 0xA1 + row % 2 * 94
  256 * (row / 2 + (if row < 62 then 0x81 else 0xC1)) + shiftedByte place

/-- Shift JIS. -/
def shiftJis : ByteSequences where
  first?
    | [] => none
    | a :: rest =>
        if a < 0x80 then some (asciiChar a, rest)
        else
          match katakana? a, rest with
          | some c, _ => some (c, rest)
          | none, [] => none
          | none, b :: rest =>
              ((unshift? a b).bind jisX0208.char?).map fun c => (c, rest)
  bytes? c :=
    (romanByte? c).map (fun byte => [byte]) <|>
      (katakanaByte? c).map (fun byte => [byte]) <|>
      (jisX0208.number? c).map fun n => pairBytes (shiftNumber n)

/-- The bytes of code page 932 that stand for a character in addition to ASCII and katakana. -/
def page932Bytes : List (UInt8 × Char) :=
  [(0x80, '\x80'), (0xA0, '\uF8F0'), (0xFD, '\uF8F1'), (0xFE, '\uF8F2'), (0xFF, '\uF8F3')]

/-- The private character with two bytes, of which the first is one from F0 to F9. -/
def private932? (a b : UInt8) : Option Char :=
  if 0xF0 ≤ a ∧ a < 0xFA then
    (shiftedPlace? b).map fun place => Char.ofNat (0xE000 + 188 * (a.toNat - 0xF0) + place)
  else none

/-- The two bytes of a private character. -/
def private932Bytes? (c : Char) : Option Bytes :=
  let n := c.toNat - 0xE000
  if 0xE000 ≤ c.toNat ∧ n < 1880 then
    some [(0xF0 + n / 188).toUInt8, (shiftedByte (n % 188)).toUInt8]
  else none

/-- Code page 932: Shift JIS with more characters. -/
def cp932 : ByteSequences where
  first?
    | [] => none
    | a :: rest =>
        if a < 0x80 then some (asciiChar a, rest)
        else
          match katakana? a <|> (page932Bytes.find? (·.1 = a)).map Prod.snd, rest with
          | some c, _ => some (c, rest)
          | none, [] => none
          | none, b :: rest =>
              (page932.char? (pairNumber a b) <|> (unshift? a b).bind jisX0208.char? <|>
                private932? a b).map fun c => (c, rest)
  bytes? c :=
    if c.toNat < 0x80 then some [c.toNat.toUInt8]
    else
      (katakanaByte? c).map (fun byte => [byte]) <|>
        (page932Bytes.find? (·.2 = c)).map (fun entry => [entry.1]) <|>
        (jisX0208.number? c).map (fun n => pairBytes (shiftNumber n)) <|>
        (page932.number? c).map pairBytes <|> private932Bytes? c

end AtomicCss.Charset
