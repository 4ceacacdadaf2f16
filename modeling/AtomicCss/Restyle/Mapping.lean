import AtomicCss.OrderedMap
import AtomicCss.Value
import AtomicCss.Sheet.Basic
import AtomicCss.Restyle.Basic

/-! # Restyling an attribute mapping

An attribute mapping gives arbitrary values to names. Only a `style` that is a text is
compiled, and only next to a `class` that is absent, null or a text. -/

namespace AtomicCss

/-- What a `style` attribute holds. -/
inductive StyleValue where
  | absent
  | text (style : Text)
  | other (value : Value)
  deriving Repr

/-- Sorts the value of a `style` attribute; null counts as absent. -/
def StyleValue.ofValue? : Option Value → StyleValue
  | none => absent
  | some .null => absent
  | some (.text style) => text style
  | some value => other value

/-- The names of the two attributes that restyling changes. -/
def styleName : Text := "style".toList

/-- The name of the attribute that holds the classes. -/
def className : Text := "class".toList

/-- The mapping with the results put in: new classes, and the style changed or taken out. -/
def Restyled.putInto (restyled : Restyled) (attributes : OrderedMap Value) : OrderedMap Value :=
  let attributes := match restyled.classes with
    | some classes => OrderedMap.set className (.text classes) attributes
    | none => attributes
  match restyled.style with
  | some style => OrderedMap.set styleName (.text style) attributes
  | none => OrderedMap.erase styleName attributes

/-- The class value that a mapping starts with, or the value that is neither absent nor a
text. -/
def classText? (attributes : OrderedMap Value) : Except Value (Option Text) :=
  match OrderedMap.get? className attributes with
  | none => .ok none
  | some .null => .ok none
  | some (.text classes) => .ok (some classes)
  | some value => .error value

/-- Restyles the mapping of an element with this tag. The rules go into the sheet; a mapping
that cannot be restyled stays as it is, and so does the sheet. -/
def restyleMapping (settings : Settings) (tag : Option Text) (attributes : OrderedMap Value)
    (sheet : Sheet) : Logged Style.StyleError (OrderedMap Value × Sheet) :=
  match StyleValue.ofValue? (OrderedMap.get? styleName attributes) with
  | .absent => .ok (attributes, sheet)
  | .other value => ⟨[.styleNotText value.kind tag], .ok (attributes, sheet)⟩
  | .text style =>
      match classText? attributes with
      | .error value => ⟨[.classNotText value.kind tag], .ok (attributes, sheet)⟩
      | .ok existing =>
          (restyle settings style existing).map fun restyled =>
            (restyled.putInto attributes, sheet.mergeAll restyled.rules)

end AtomicCss
