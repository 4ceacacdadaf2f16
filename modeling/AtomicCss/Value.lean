import AtomicCss.Text.Quoted
import AtomicCss.Decimal.Shortest

/-! # Values

The values that an attribute or a setting can be given: besides text also numbers, truth
values, lists and maps. A value has a kind, a truth value and a text. -/

namespace AtomicCss

/-- An attribute's or a setting's value. -/
inductive Value where
  | null
  | bool (value : Bool)
  | integer (value : Int)
  | float (value : Decimal.Binary64)
  | text (value : Text)
  | list (items : List Value)
  | mapping (entries : List (Text × Value))
  deriving Repr

namespace Value

/-- The name of a value's kind. -/
def kind : Value → Text
  | null => "NoneType".toList
  | bool _ => "bool".toList
  | integer _ => "int".toList
  | float _ => "float".toList
  | text _ => "str".toList
  | list _ => "list".toList
  | mapping _ => "dict".toList

/-- Whether a value counts as true: it is neither null, false, zero nor empty. -/
def isTrue : Value → Bool
  | null => false
  | bool value => value
  | integer value => value ≠ 0
  | float value => !value.isZero
  | text value => !value.isEmpty
  | list items => !items.isEmpty
  | mapping entries => !entries.isEmpty

/-- Digits without the zeros at their end, and how many there were. -/
def stripZeros (digits : Text) : Text × Nat :=
  let kept := (digits.reverse.dropWhile (· = '0')).reverse
  (kept, digits.length - kept.length)

/-- Decimal digits with the point at `point` digits from their start. The positional form is
used for `-4 < point ≤ 16` and always shows a digit on both sides of the point; otherwise the
exponent is written with its sign and at least two digits. -/
def decimalText (digits : Text) (point : Int) : Text :=
  if -4 < point ∧ point ≤ 16 then
    if point ≤ 0 then
      ['0', '.'] ++ List.replicate (-point).toNat '0' ++ digits
    else
      let whole := digits.take point.toNat
      let fraction := digits.drop point.toNat
      whole ++ List.replicate (point.toNat - whole.length) '0' ++ ['.'] ++
        (if fraction.isEmpty then ['0'] else fraction)
  else
    let exponent := point - 1
    let size := Text.ofNat exponent.natAbs
    digits.take 1 ++ (if digits.length ≤ 1 then [] else '.' :: digits.drop 1) ++
      ['e', if exponent < 0 then '-' else '+'] ++
      List.replicate (2 - size.length) '0' ++ size

/-- A floating-point number by its shortest decimal. -/
def floatText (x : Decimal.Binary64) : Text :=
  let sign := if x.isNegative then ['-'] else []
  if x.isNaN then "nan".toList
  else if x.isInfinite then sign ++ "inf".toList
  else if x.isZero then sign ++ "0.0".toList
  else
    let shortest := Decimal.shortest x
    let written := Text.ofNat shortest.digits
    sign ++ decimalText (stripZeros written).1 (shortest.exponent + written.length)

mutual

/-- A value as it is written inside a list or a map. -/
def written : Value → Text
  | null => "None".toList
  | bool value => if value then "True".toList else "False".toList
  | integer value => Text.ofInt value
  | float value => floatText value
  | text value => value.quoted
  | list items => '[' :: Text.joinWith [',', ' '] (writtenItems items) ++ [']']
  | mapping entries => '{' :: Text.joinWith [',', ' '] (writtenEntries entries) ++ ['}']

/-- The items of a list, each as it is written. -/
def writtenItems : List Value → List Text
  | [] => []
  | item :: rest => written item :: writtenItems rest

/-- The entries of a map, each as it is written. -/
def writtenEntries : List (Text × Value) → List Text
  | [] => []
  | (key, value) :: rest => (key.quoted ++ [':', ' '] ++ written value) :: writtenEntries rest

end

/-- The name that a floating-point number is written with instead of digits. -/
def floatName? (x : Decimal.Binary64) : Option Text :=
  if x.isNaN then some "nan".toList
  else if x.isInfinite then some "inf".toList
  else none

mutual

/-- The first name in a written value; there is one if a number in it is infinite or is no
number at all. -/
def name? : Value → Option Text
  | float value => floatName? value
  | list items => firstName? items
  | mapping entries => firstEntryName? entries
  | _ => none

/-- The first name in some written values. -/
def firstName? : List Value → Option Text
  | [] => none
  | item :: rest => name? item <|> firstName? rest

/-- The first name in the written values of some entries. -/
def firstEntryName? : List (Text × Value) → Option Text
  | [] => none
  | (_, value) :: rest => name? value <|> firstEntryName? rest

end

/-- The text of a value: a text is its own text, anything else is as it is written. -/
def toText : Value → Text
  | text value => value
  | value => written value

end Value
end AtomicCss
