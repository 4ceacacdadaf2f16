import AtomicCss.Text.Basic

/-! # Numerals -/

namespace AtomicCss.Text

/-- A natural number in decimal. -/
def ofNat (n : Nat) : Text := Nat.toDigits 10 n

/-- An integer in decimal, with a minus sign if it is negative. -/
def ofInt : Int → Text
  | .ofNat n => ofNat n
  | .negSucc n => '-' :: ofNat (n + 1)

/-- A number in lowercase hexadecimal, with zeros in front up to `width` digits. -/
def paddedHex (width n : Nat) : Text :=
  let digits := Nat.toDigits 16 n
  List.replicate (width - digits.length) '0' ++ digits

end AtomicCss.Text
