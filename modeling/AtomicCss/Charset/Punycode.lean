import AtomicCss.Charset.CharTable
import AtomicCss.Charset.CodeUnits

/-! # Punycode

The characters of ASCII are written first, and after a hyphen the others in the order of their code
points: for each of them a number that tells how far it is from the one before, counted over all
places in the text and all code points. The digits of a number have weights that follow the numbers
before it. -/

namespace AtomicCss.Charset.Punycode

/-- The digits of numbers in the order of their values. -/
def digits : Text := "abcdefghijklmnopqrstuvwxyz0123456789".toList

/-- The value of a digit. -/
def digitValue? (byte : UInt8) : Option Nat :=
  if byte < 0x80 then digits.idxOf? (asciiChar byte).toLower else none

/-- The byte of a digit. -/
def digitByte (value : Nat) : UInt8 := ((digits[value]?.getD 'a').toNat).toUInt8

/-- From which value on a digit at a place is not the last one of its number. -/
def threshold (place bias : Nat) : Nat := max 1 (min 26 (36 * (place + 1) - bias))

theorem threshold_pos (place bias : Nat) : 0 < threshold place bias := by
  unfold threshold
  omega

/-- The bias that belongs to a difference, after so many divisions. -/
def settle (difference divisions : Nat) : Nat :=
  if 455 < difference then settle (difference / 35) (divisions + 1)
  else 36 * divisions + 36 * difference / (difference + 38)
termination_by difference
decreasing_by omega

/-- The bias after a difference has been written or read, if there are `count` characters then. -/
def adapt (difference : Nat) (isFirst : Bool) (count : Nat) : Nat :=
  let scaled := difference / (if isFirst then 700 else 2)
  settle (scaled + scaled / count) 0

/-- The bias at the start. -/
def startBias : Nat := 72

/-- The code point from which differences are counted. -/
def startPoint : Nat := 0x80

/-! ## Writing -/

/-- The digits of a number from a place on. -/
def numberBytes (bias place n : Nat) : Bytes :=
  let t := threshold place bias
  if n < t then [digitByte n]
  else digitByte (t + (n - t) % (36 - t)) :: numberBytes bias (place + 1) ((n - t) / (36 - t))
termination_by n
decreasing_by
  have hpos := threshold_pos place bias
  have hle : (n - threshold place bias) / (36 - threshold place bias) ≤ n - threshold place bias :=
    Nat.div_le_self _ _
  omega

/-- The differences for a character in a text. `index` is the number of characters up to here that
are written before this one, `last` the index of the one written last, and `difference` what is to be
added at the next place of the character. -/
def differencesOf (c : Char) : Text → Nat → Nat → Nat → List Nat × Nat
  | [], _, last, _ => ([], last)
  | d :: rest, index, last, difference =>
      if d = c then
        let (others, final) := differencesOf c rest (index + 1) (index + 1) 0
        ((difference + (index + 1) - last - 1) :: others, final)
      else differencesOf c rest (if d < c then index + 1 else index) last difference

/-- The differences for characters in ascending order. -/
def differences (text : Text) : List Char → Nat → Nat → List Nat
  | [], _, _ => []
  | c :: others, point, last =>
      let count := text.countP (· < c)
      let (here, last) := differencesOf c text 0 last ((count + 1) * (c.toNat - point))
      here ++ differences text others c.toNat last

/-- The digits of differences, if there are `count` characters before them. -/
def differencesBytes (isFirst : Bool) (bias count : Nat) : List Nat → Bytes
  | [] => []
  | difference :: rest =>
      numberBytes bias 0 difference ++
        differencesBytes false (adapt difference isFirst (count + 1)) (count + 1) rest

/-- The bytes of a text. -/
def encode (text : Text) : Bytes :=
  let (plain, others) := text.partition (·.toNat < 0x80)
  let ascending := others.eraseDups.mergeSort fun c d => c ≤ d
  plain.map (fun c => c.toNat.toUInt8) ++ (if plain.isEmpty then [] else [0x2D]) ++
    differencesBytes true startBias plain.length (differences text ascending startPoint 0)

/-! ## Reading -/

/-- The number at the start of digits, and the digits after it: `n` is what is read before a place
with this weight. -/
def readNumber? (bias : Nat) : Nat → Nat → Nat → Bytes → Option (Nat × Bytes)
  | _, _, _, [] => none
  | n, weight, place, a :: rest =>
      match digitValue? a with
      | none => none
      | some value =>
          let t := threshold place bias
          let n := n + value * weight
          if value < t then some (n, rest)
          else readNumber? bias n (weight * (36 - t)) (place + 1) rest

/-- Puts the characters of at most `limit` differences into a text. The next one is counted from this
place and this code point on. -/
def insertUpTo? : Nat → Bool → Nat → Nat → Nat → Text → Bytes → Option Text
  | _, _, _, _, _, text, [] => some text
  | 0, _, _, _, _, _, _ => none
  | limit + 1, isFirst, bias, point, place, text, bytes =>
      match readNumber? bias 0 1 0 bytes with
      | none => none
      | some (difference, rest) =>
          let count := text.length + 1
          let point := point + (place + difference) / count
          let place := (place + difference) % count
          match scalar? point with
          | none => none
          | some c =>
              insertUpTo? limit false (adapt difference isFirst count) point (place + 1)
                (text.take place ++ c :: text.drop place) rest

/-- The text that bytes stand for. The last hyphen ends the characters of ASCII. -/
def decode? (bytes : Bytes) : Option Text :=
  let after := (bytes.reverse.takeWhile (· ≠ 0x2D)).reverse
  let plain := bytes.take (bytes.length - after.length - 1)
  if plain.all (· < 0x80) then
    insertUpTo? after.length true startBias startPoint 0 (plain.map asciiChar) after
  else none

end AtomicCss.Charset.Punycode
