import AtomicCss.Charset.ByteOrder
import AtomicCss.Text.Basic

/-! # Characters in units

In UTF-16 a character is one unit of two bytes, or two units that are surrogates of each other;
in UTF-32 it is one unit of four bytes. The bytes of a unit stand in one of two orders, which a
mark at the start of the text may tell. -/

namespace AtomicCss.Charset

/-- The character with this code point, if there is one. -/
def scalar? (n : Nat) : Option Char :=
  if n < 0xD800 ∨ (0xDFFF < n ∧ n < 0x110000) then some (Char.ofNat n) else none

/-- The character that starts every text in which the order of the bytes is marked. -/
def byteOrderMark : Char := '\uFEFF'

namespace Utf16

/-- The units of a character. -/
def units (c : Char) : List Nat :=
  let n := c.toNat
  if n < 0x10000 then [n] else [0xD800 + (n - 0x10000) / 0x400, 0xDC00 + (n - 0x10000) % 0x400]

/-- Whether a unit is the first of two. -/
def isHigh (unit : Nat) : Bool := 0xD800 ≤ unit && unit < 0xDC00

/-- Whether a unit is the second of two. -/
def isLow (unit : Nat) : Bool := 0xDC00 ≤ unit && unit < 0xE000

/-- The units that are written in bytes. -/
def readUnits? (order : ByteOrder) : Bytes → Option (List Nat)
  | [] => some []
  | [_] => none
  | a :: b :: rest => (readUnits? order rest).map (order.number [a, b] :: ·)

/-- The text that units stand for. -/
def ofUnits? : List Nat → Option Text
  | [] => some []
  | unit :: rest =>
      if isHigh unit then
        match rest with
        | low :: rest =>
            if isLow low then
              (ofUnits? rest).map
                (Char.ofNat (0x10000 + (unit - 0xD800) * 0x400 + (low - 0xDC00)) :: ·)
            else none
        | [] => none
      else
        match scalar? unit, ofUnits? rest with
        | some c, some text => some (c :: text)
        | _, _ => none

/-- The text that bytes stand for. -/
def decode? (order : ByteOrder) (bytes : Bytes) : Option Text :=
  (readUnits? order bytes).bind ofUnits?

/-- The bytes of a text. -/
def encode (order : ByteOrder) (text : Text) : Bytes :=
  text.flatMap fun c => (units c).flatMap (order.bytes 2)

end Utf16

namespace Utf32

/-- The text that bytes stand for. -/
def decode? (order : ByteOrder) : Bytes → Option Text
  | [] => some []
  | a :: b :: c :: d :: rest =>
      match scalar? (order.number [a, b, c, d]), decode? order rest with
      | some c, some text => some (c :: text)
      | _, _ => none
  | _ => none

/-- The bytes of a text. -/
def encode (order : ByteOrder) (text : Text) : Bytes :=
  text.flatMap fun c => order.bytes 4 c.toNat

end Utf32

/-- Reads bytes in the order that the mark at their start tells, and without a mark with the
lowest byte first. The mark is no part of the text. -/
def decodeMarked? (encode : ByteOrder → Text → Bytes) (decode? : ByteOrder → Bytes → Option Text)
    (bytes : Bytes) : Option Text :=
  let lowMark := encode .lowFirst [byteOrderMark]
  let highMark := encode .highFirst [byteOrderMark]
  if lowMark.isPrefixOf bytes then decode? .lowFirst (bytes.drop lowMark.length)
  else if highMark.isPrefixOf bytes then decode? .highFirst (bytes.drop highMark.length)
  else decode? .lowFirst bytes

end AtomicCss.Charset
