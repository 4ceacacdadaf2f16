import AtomicCss.Charset.CharTable
import AtomicCss.Charset.CodeUnits

/-! # UTF-7

Characters outside a part of ASCII are written as the units of UTF-16, whose bits are cut into
digits of six bits each. A plus sign starts such a run of digits, and a minus sign may end it. -/

namespace AtomicCss.Charset.Utf7

/-- The digits in the order of their values. -/
def digits : Text :=
  "ABCDEFGHIJKLMNOPQRSTUVWXYZabcdefghijklmnopqrstuvwxyz0123456789+/".toList

/-- The value of a digit. -/
def digitValue? (byte : UInt8) : Option Nat :=
  if byte < 0x80 then digits.idxOf? (asciiChar byte) else none

/-- The byte of a digit. -/
def digitByte (value : Nat) : UInt8 := ((digits[value]?.getD 'A').toNat).toUInt8

/-- Whether a character is written as it is. -/
def isPlain (c : Char) : Bool :=
  c = '\t' || c = '\n' || c = '\r' ||
    (0x20 ≤ c.toNat && c.toNat < 0x7F && c ≠ '+' && c ≠ '\\' && c ≠ '~')

/-- Bits that have been read or are to be written: their number and their value. -/
structure Bits where
  count : Nat
  value : Nat

/-- The units in the digits of a run, the last one first, and the bits that are left over. -/
def unitsOf (digits : List Nat) : List Nat × Bits :=
  digits.foldl
    (fun (units, bits) digit =>
      let count := bits.count + 6
      let value := bits.value * 64 + digit
      if 16 ≤ count then
        let rest := 1 <<< (count - 16)
        (value / rest :: units, ⟨count - 16, value % rest⟩)
      else (units, ⟨count, value⟩))
    ([], ⟨0, 0⟩)

/-- The text of the digits of a run. The bits that are left over fill no digit and are zero. -/
def ofDigits? (digits : List Nat) : Option Text :=
  let (units, bits) := unitsOf digits
  if 6 ≤ bits.count ∨ bits.value ≠ 0 then none else Utf16.ofUnits? units.reverse

/-- The text that bytes stand for, which are at most `limit`. -/
def decodeUpTo? : Nat → Bytes → Option Text
  | _, [] => some []
  | 0, _ => none
  | limit + 1, a :: rest =>
      if a = 0x2B then
        match rest with
        | 0x2D :: rest => (decodeUpTo? limit rest).map ('+' :: ·)
        | rest =>
            let run := rest.takeWhile fun byte => (digitValue? byte).isSome
            let after := rest.drop run.length
            if run.isEmpty && !rest.isEmpty then none
            else
              match ofDigits? (run.filterMap digitValue?) with
              | none => none
              | some text =>
                  let after := match after with
                    | 0x2D :: after => after
                    | after => after
                  (decodeUpTo? limit after).map (text ++ ·)
      else if a < 0x80 then (decodeUpTo? limit rest).map (asciiChar a :: ·)
      else none

/-- The text that bytes stand for. -/
def decode? (bytes : Bytes) : Option Text := decodeUpTo? bytes.length bytes

/-- The digits of units, the bits of the last one being filled up with zeros. -/
def digitsOf (units : List Nat) : Bytes :=
  let (written, bits) := units.foldl
    (fun (written, bits) unit =>
      let count := bits.count + 16
      let value := bits.value * 65536 + unit
      let size := count / 6
      let rest := 1 <<< (count % 6)
      let digits := (List.range size).map fun place =>
        digitByte ((value / rest) >>> (6 * (size - 1 - place)) % 64)
      (written ++ digits, ⟨count % 6, value % rest⟩))
    ([], (⟨0, 0⟩ : Bits))
  if bits.count = 0 then written else written ++ [digitByte (bits.value <<< (6 - bits.count))]

/-- Whether a character after a run of digits would be taken for a part of it. -/
def extendsRun (c : Char) : Bool := c = '-' || digits.contains c

/-- The bytes of a text, which has at most `limit` characters. -/
def encodeUpTo : Nat → Text → Bytes
  | _, [] => []
  | 0, _ => []
  | limit + 1, c :: rest =>
      if c = '+' then 0x2B :: 0x2D :: encodeUpTo limit rest
      else if isPlain c then c.toNat.toUInt8 :: encodeUpTo limit rest
      else
        let run := (c :: rest).takeWhile fun d => !isPlain d
        let after := (c :: rest).drop run.length
        let closing := match after with
          | [] => true
          | d :: _ => extendsRun d
        0x2B :: digitsOf (run.flatMap Utf16.units) ++ (if closing then [0x2D] else []) ++
          encodeUpTo limit after

/-- The bytes of a text. -/
def encode (text : Text) : Bytes := encodeUpTo text.length text

end AtomicCss.Charset.Utf7
