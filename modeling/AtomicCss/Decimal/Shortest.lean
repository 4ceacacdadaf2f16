/-! # Shortest decimals

A binary floating-point number stands for all real numbers that round to it. Its shortest
decimal is the one of least digits among these, and of several the one nearest to the number.
All comparisons are between natural numbers. -/

namespace AtomicCss.Decimal

/-- A floating-point number in the 64-bit binary format. -/
structure Binary64 where
  bits : UInt64
  deriving DecidableEq, Repr

/-- The natural number `digits` times `10 ^ exponent`. -/
structure Digits where
  digits : Nat
  exponent : Int
  deriving DecidableEq, Repr

namespace Binary64

/-- The weight of the leading bit, which the format does not store. -/
def hidden : Nat := 1 <<< 52

/-- Whether the number has a minus sign. -/
def isNegative (x : Binary64) : Bool := x.bits.toNat >>> 63 = 1

/-- The field of the biased exponent. -/
def biased (x : Binary64) : Nat := x.bits.toNat >>> 52 % 2048

/-- The field of the fraction. -/
def fraction (x : Binary64) : Nat := x.bits.toNat % hidden

/-- Whether the number is plus or minus zero. -/
def isZero (x : Binary64) : Bool := x.biased = 0 ∧ x.fraction = 0

/-- Whether the number is an infinity. -/
def isInfinite (x : Binary64) : Bool := x.biased = 2047 ∧ x.fraction = 0

/-- Whether the bits stand for no number. -/
def isNaN (x : Binary64) : Bool := x.biased = 2047 ∧ x.fraction ≠ 0

/-- The factor `m` in the magnitude `m * 2 ^ scale`. -/
def mantissa (x : Binary64) : Nat := if x.biased = 0 then x.fraction else hidden + x.fraction

/-- The exponent of two in the magnitude. -/
def scale (x : Binary64) : Int := (max x.biased 1 : Nat) - 1075

end Binary64

/-- `base ^ exponent`, and one where the exponent is negative: a comparison moves the power of
a negative exponent to its other side. -/
def power (base : Nat) (exponent : Int) : Nat := Nat.pow base exponent.toNat

/-- Whether `a * 10 ^ k ≤ b * 2 ^ p`. -/
def decimalLe (a : Nat) (k : Int) (b : Nat) (p : Int) : Bool :=
  a * power 10 k * power 2 (-p) ≤ b * power 2 p * power 10 (-k)

/-- Whether `b * 2 ^ p ≤ a * 10 ^ k`. -/
def decimalGe (a : Nat) (k : Int) (b : Nat) (p : Int) : Bool :=
  b * power 2 p * power 10 (-k) ≤ a * power 10 k * power 2 (-p)

/-- The real numbers that round to a number lie between `low * 2 ^ power` and
`high * 2 ^ power`; the ends belong to them when `closed` holds. -/
structure Interval where
  low : Nat
  high : Nat
  power : Int
  closed : Bool

/-- The interval of a positive number. Below a power of two the neighbour is at half the
distance. -/
def Interval.ofBinary (x : Binary64) : Interval :=
  let low := if x.fraction = 0 ∧ 1 < x.biased then 4 * x.mantissa - 1 else 4 * x.mantissa - 2
  ⟨low, 4 * x.mantissa + 2, x.scale - 2, x.mantissa % 2 = 0⟩

/-- Whether `a * 10 ^ k` lies in the interval. -/
def Interval.holds (i : Interval) (a : Nat) (k : Int) : Bool :=
  if i.closed then decimalGe a k i.low i.power && decimalLe a k i.high i.power
  else !decimalLe a k i.low i.power && !decimalGe a k i.high i.power

/-- The least `j` from `start` on, at most `start + steps`, with `b ≤ a * 10 ^ j`. -/
def leastShift (a b : Nat) : Nat → Nat → Nat
  | start, 0 => start
  | start, steps + 1 => if b ≤ a * power 10 start then start else leastShift a b (start + 1) steps

/-- The `e` with `10 ^ e ≤ m * 2 ^ p < 10 ^ (e + 1)`, for positive numbers of the format. -/
def magnitude (m : Nat) (p : Int) : Int :=
  let whole := m * power 2 p / power 2 (-p)
  if 0 < whole then (Nat.toDigits 10 whole).length - 1
  else -(leastShift m (power 2 (-p)) 1 400 : Nat)

/-- The neighbours of `m * 2 ^ p` on the grid of step `10 ^ k`, the lower one first. -/
def gridFloor (m : Nat) (p k : Int) : Nat :=
  m * power 2 p * power 10 (-k) / (power 2 (-p) * power 10 k)

/-- The grid point nearest to the number among those in its interval. -/
def nearestOnGrid? (x : Binary64) (k : Int) : Option Nat :=
  let i := Interval.ofBinary x
  let lower := gridFloor x.mantissa x.scale k
  match i.holds lower k, i.holds (lower + 1) k with
  | false, false => none
  | true, false => some lower
  | false, true => some (lower + 1)
  | true, true =>
      -- twice the number against the middle of the two grid points
      let below := decimalGe (2 * lower + 1) k (2 * x.mantissa) x.scale
      let above := decimalLe (2 * lower + 1) k (2 * x.mantissa) x.scale
      if below && above then some (if lower % 2 = 0 then lower else lower + 1)
      else if below then some lower
      else some (lower + 1)

/-- The shortest decimal of a positive number, tried from `count` digits on. -/
def shortestFrom (x : Binary64) : Nat → Nat → Digits
  | _, 0 => ⟨0, 0⟩
  | count, fuel + 1 =>
      let k := magnitude x.mantissa x.scale + 1 - count
      match nearestOnGrid? x k with
      | some digits => ⟨digits, k⟩
      | none => shortestFrom x (count + 1) fuel

/-- The shortest decimal of a positive number. Seventeen digits always suffice. -/
def shortest (x : Binary64) : Digits := shortestFrom x 1 17

end AtomicCss.Decimal
