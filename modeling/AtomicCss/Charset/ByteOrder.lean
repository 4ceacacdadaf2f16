/-! # Numbers in bytes

A number is written in a fixed count of bytes, in one of two orders. -/

namespace AtomicCss

/-- A sequence of bytes. -/
abbrev Bytes := List UInt8

namespace Charset

/-- The order of the bytes of a number: its lowest byte comes first or last. -/
inductive ByteOrder where
  | lowFirst
  | highFirst
  deriving DecidableEq, Repr

namespace ByteOrder

/-- The number that is written in bytes. -/
def number (order : ByteOrder) (bytes : Bytes) : Nat :=
  let ascending := match order with
    | .lowFirst => bytes
    | .highFirst => bytes.reverse
  ascending.foldr (fun byte n => byte.toNat + 256 * n) 0

/-- A number in so many bytes. -/
def bytes (order : ByteOrder) (size n : Nat) : Bytes :=
  let ascending := (List.range size).map fun place => (n >>> (8 * place)).toUInt8
  match order with
  | .lowFirst => ascending
  | .highFirst => ascending.reverse

end ByteOrder
end Charset
end AtomicCss
