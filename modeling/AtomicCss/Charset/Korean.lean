import AtomicCss.Charset.KoreanTable

/-! # Korean charsets

KS X 1001 has only some of the Hangul syllables. EUC-KR writes the others letter by letter, and
code page 949 gives them two bytes of their own, in their order. -/

namespace AtomicCss.Charset

/-- The first syllable, and the number of syllables. -/
def syllables : Nat × Nat := (0xAC00, 11172)

/-- The bytes after A4 of the letters that start a syllable. -/
def initialBytes : Bytes :=
  [0xA1, 0xA2, 0xA4, 0xA7, 0xA8, 0xA9, 0xB1, 0xB2, 0xB3, 0xB5, 0xB6, 0xB7, 0xB8, 0xB9, 0xBA, 0xBB,
    0xBC, 0xBD, 0xBE]

/-- The bytes of its vowels. -/
def vowelBytes : Bytes := (List.range 21).map fun n => (0xBF + n).toUInt8

/-- The byte that stands for no letter. -/
def fillerByte : UInt8 := 0xD4

/-- The bytes of the letters that end a syllable. -/
def finalBytes : Bytes :=
  [fillerByte, 0xA1, 0xA2, 0xA3, 0xA4, 0xA5, 0xA6, 0xA7, 0xA9, 0xAA, 0xAB, 0xAC, 0xAD, 0xAE, 0xAF,
    0xB0, 0xB1, 0xB2, 0xB4, 0xB5, 0xB6, 0xB7, 0xB8, 0xBA, 0xBB, 0xBC, 0xBD, 0xBE]

/-- The byte before the byte of a letter. -/
def letterByte : UInt8 := 0xA4

/-- The syllable with these bytes of its letters. -/
def syllable? (initial vowel final : UInt8) : Option Char :=
  match initialBytes.idxOf? initial, vowelBytes.idxOf? vowel, finalBytes.idxOf? final with
  | some i, some v, some f => some (Char.ofNat (syllables.1 + (21 * i + v) * 28 + f))
  | _, _, _ => none

/-- A syllable in letters, of which the first is a filler. -/
def syllableBytes? (c : Char) : Option Bytes :=
  let n := c.toNat - syllables.1
  if c.toNat < syllables.1 then none
  else
    match initialBytes[n / 588]?, vowelBytes[n / 28 % 21]?, finalBytes[n % 28]? with
    | some i, some v, some f =>
        some [letterByte, fillerByte, letterByte, i, letterByte, v, letterByte, f]
    | _, _, _ => none

/-- EUC-KR. A filler always starts a syllable in letters. -/
def eucKr : ByteSequences where
  first? bytes :=
    if [letterByte, fillerByte].isPrefixOf bytes then
      match bytes.drop 2 with
      | a :: i :: b :: v :: c :: f :: rest =>
          if a = letterByte ∧ b = letterByte ∧ c = letterByte then
            (syllable? i v f).map fun syllable => (syllable, rest)
          else none
      | _ => none
    else (pairSequences ksX1001.char? ksX1001.number?).first? bytes
  bytes? c :=
    (pairSequences ksX1001.char? ksX1001.number?).bytes? c <|> syllableBytes? c

/-- The syllables that are not in KS X 1001. -/
def otherSyllables : Remainder :=
  .of syllables.1
    ((Remainder.rangesOf ksX1001).filter fun (n, _) =>
      syllables.1 ≤ n && n < syllables.1 + syllables.2)

/-- How many syllables are not in KS X 1001. -/
def otherSyllableCount : Nat := 8822

/-- The place in its row of a second byte: a letter of ASCII, or one from 81 on. -/
def page949Place? (byte : Nat) : Option Nat :=
  if 0x41 ≤ byte ∧ byte < 0x5B then some (byte - 0x41)
  else if 0x61 ≤ byte ∧ byte < 0x7B then some (byte - 0x61 + 26)
  else if 0x81 ≤ byte ∧ byte < 0xFF then some (byte - 0x81 + 52)
  else none

/-- The second byte of a place. -/
def page949Byte (place : Nat) : Nat :=
  if place < 26 then 0x41 + place
  else if place < 52 then 0x61 + (place - 26)
  else 0x81 + (place - 52)

/-- The place among the other syllables of two bytes. They fill 32 rows of 178 places, and after
these the first 84 places of each row. -/
def otherSyllablePlace? (pair : Nat) : Option Nat :=
  let row := pair / 256
  match page949Place? (pair % 256) with
  | none => none
  | some place =>
      if 0x81 ≤ row ∧ row < 0xA1 then some (178 * (row - 0x81) + place)
      else if 0xA1 ≤ row ∧ place < 84 ∧
          5696 + 84 * (row - 0xA1) + place < otherSyllableCount then
        some (5696 + 84 * (row - 0xA1) + place)
      else none

/-- The two bytes of a place among the other syllables. -/
def otherSyllablePair (n : Nat) : Nat :=
  let (row, place) :=
    if n < 5696 then (0x81 + n / 178, n % 178) else (0xA1 + (n - 5696) / 84, (n - 5696) % 84)
  256 * row + page949Byte place

/-- Code page 949. -/
def cp949 : ByteSequences :=
  pairSequences
    (fun pair =>
      ksX1001.char? pair <|>
        (otherSyllablePlace? pair).map fun n => Char.ofNat (otherSyllables.nth n))
    (fun c =>
      ksX1001.number? c <|>
        if syllables.1 ≤ c.toNat ∧ c.toNat < syllables.1 + syllables.2 then
          some (otherSyllablePair (otherSyllables.countBelow c.toNat))
        else none)

/-! ## Johab

A syllable in Johab is two bytes with five bits for each of its letters. A letter alone has fillers
in the places of the others. -/

/-- The codes of the letters that start a syllable. -/
def johabInitials : List Nat := (List.range 19).map (2 + ·)

/-- The codes of its vowels. -/
def johabVowels : List Nat :=
  [3, 4, 5, 6, 7, 10, 11, 12, 13, 14, 15, 18, 19, 20, 21, 22, 23, 26, 27, 28, 29]

/-- The codes of the letters that end a syllable, the first of which stands for none. -/
def johabFinals : List Nat := (List.range 17).map (1 + ·) ++ (List.range 11).map (19 + ·)

/-- The filler among the codes of the initial letters. -/
def johabInitialFiller : Nat := 1

/-- The filler among the codes of the vowels. -/
def johabVowelFiller : Nat := 2

/-- The letter that is in KS X 1001 with a byte after A4. -/
def letterOf (byte : UInt8) : Char := Char.ofNat (0x3131 + (byte.toNat - 0xA1))

/-- A place in a syllable: none if it has the filler, or the place of its letter. -/
def johabPlace? (filler : Nat) (codes : List Nat) (code : Nat) : Option (Option Nat) :=
  if code = filler then some none else (codes.idxOf? code).map some

/-- The syllable or the letter of two bytes. -/
def johabHangul? (pair : Nat) : Option Char :=
  let initial? := johabPlace? johabInitialFiller johabInitials (pair / 1024 % 32)
  let vowel? := johabPlace? johabVowelFiller johabVowels (pair / 32 % 32)
  match initial?, vowel?, johabFinals.idxOf? (pair % 32) with
  | some none, some none, some 0 => some '\u3000'
  | some none, some none, some f => finalBytes[f]?.map letterOf
  | some none, some (some v), some 0 => vowelBytes[v]?.map letterOf
  | some (some i), some none, some 0 => initialBytes[i]?.map letterOf
  | some (some i), some (some v), some f => some (Char.ofNat (syllables.1 + (21 * i + v) * 28 + f))
  | _, _, _ => none

/-- The two bytes of letters with these codes. -/
def johabPair (initial vowel final : Nat) : Nat := 0x8000 + 1024 * initial + 32 * vowel + final

/-- The two bytes of a syllable. -/
def johabSyllable? (c : Char) : Option Nat :=
  let n := c.toNat - syllables.1
  if c.toNat < syllables.1 then none
  else
    match johabInitials[n / 588]?, johabVowels[n / 28 % 21]?, johabFinals[n % 28]? with
    | some i, some v, some f => some (johabPair i v f)
    | _, _, _ => none

/-- The two bytes of a letter alone. A letter that may start a syllable stands at its start. -/
def johabLetter? (c : Char) : Option Nat :=
  let place? (bytes : Bytes) := (bytes.map letterOf).idxOf? c
  let filler := johabFinals.headD 0
  ((place? initialBytes).bind (johabInitials[·]?)).map
      (fun code => johabPair code johabVowelFiller filler) <|>
    ((place? vowelBytes).bind (johabVowels[·]?)).map
      (fun code => johabPair johabInitialFiller code filler) <|>
    ((place? (finalBytes.drop 1)).bind fun place => johabFinals[place + 1]?).map
      (johabPair johabInitialFiller johabVowelFiller)

/-- The rows of KS X 1001 that stand in this order in Johab, two of them under one first byte. -/
def johabRows : List Nat := (List.range 12).map (0xA1 + ·) ++ (List.range 52).map (0xCA + ·)

/-- The first byte of the rows with a place in their order. -/
def johabRowByte (place : Nat) : Nat := if place < 12 then 0xD9 + place / 2 else 0xDA + place / 2

/-- The place in two rows of a second byte. -/
def johabColumn? (byte : Nat) : Option Nat :=
  if 0x31 ≤ byte ∧ byte < 0x7F then some (byte - 0x31)
  else if 0x91 ≤ byte ∧ byte < 0xFF then some (byte - 0x43)
  else none

/-- The number in KS X 1001 of two bytes that are no hangul. -/
def johabNumber? (pair : Nat) : Option Nat :=
  let byte := pair / 256
  match johabColumn? (pair % 256) with
  | none => none
  | some column =>
      if byte < 0xD9 ∨ byte = 0xDF then none
      else
        let place := 2 * (byte - (if byte < 0xDF then 0xD9 else 0xDA)) + column / 94
        (johabRows[place]?).map fun row => 256 * row + 0xA1 + column % 94

/-- The two bytes of a number in KS X 1001. -/
def johabOther? (n : Nat) : Option Nat :=
  (johabRows.idxOf? (n / 256)).map fun place =>
    let column := place % 2 * 94 + (n % 256 - 0xA1)
    256 * johabRowByte place + column + (if column < 0x4E then 0x31 else 0x43)

/-- Johab. The letters alone are not read in their row of KS X 1001. -/
def johab : ByteSequences :=
  pairSequences
    (fun pair =>
      if pair < 0xD800 then johabHangul? pair
      else ((johabNumber? pair).bind ksX1001.char?).filter fun c => (johabLetter? c).isNone)
    (fun c => johabSyllable? c <|> johabLetter? c <|> (ksX1001.number? c).bind johabOther?)

end AtomicCss.Charset
