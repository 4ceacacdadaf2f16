import AtomicCss.Fault
import AtomicCss.Markup.Basic
import AtomicCss.Restyle.Mapping

/-! # Restyling the elements of a tree

An element with a `style` attribute is restyled in place. The rules go into the sheet before
the attributes are set, and setting an attribute fails if its text is not allowed in a tree. -/

namespace AtomicCss

open Markup

/-- Gives an attribute a text. -/
def setText (name value : Text) (attributes : Attributes) : Except Fault Attributes :=
  if isXmlText value then .ok (OrderedMap.set name (some value) attributes)
  else .error .notXmlText

/-- Sets or keeps the class, and then sets or takes out the style. The attributes are those
reached when a text is refused. -/
def Restyled.putOnto (restyled : Restyled) (attributes : Attributes) :
    Attributes × Except Fault Unit :=
  let classed := match restyled.classes with
    | some classes => setText className classes attributes
    | none => .ok attributes
  match classed with
  | .error fault => (attributes, .error fault)
  | .ok attributes =>
      match restyled.style with
      | none => (OrderedMap.erase styleName attributes, .ok ())
      | some style =>
          match setText styleName style attributes with
          | .error fault => (attributes, .error fault)
          | .ok attributes => (attributes, .ok ())

/-- Restyles the attributes of one element. -/
def restyleAttributes (settings : Settings) (attributes : Attributes) (sheet : Sheet) :
    Effect (Attributes × Sheet) Unit :=
  match Attributes.text? styleName attributes with
  | none => .ok (attributes, sheet) ()
  | some style =>
      let restyled := restyle settings style (Attributes.text? className attributes)
      match restyled.outcome with
      | .error error => ⟨(attributes, sheet), restyled.notices, .error (.style error)⟩
      | .ok result =>
          let (changed, outcome) := result.putOnto attributes
          ⟨(changed, sheet.mergeAll result.rules), restyled.notices, outcome⟩

/-- Restyles one element; every other node stays as it is. -/
def restyleElement (settings : Settings) (node : Node) (sheet : Sheet) :
    Effect (Node × Sheet) Unit :=
  match node with
  | .element tag attributes children =>
      let done := restyleAttributes settings attributes sheet
      ⟨(.element tag done.state.1 children, done.state.2), done.notices, done.outcome⟩
  | node => .ok (node, sheet) ()

mutual

/-- Restyles a node and then everything below it, in document order, up to the first fault. -/
def restyleTree (settings : Settings) : Node → Sheet → Effect (Node × Sheet) Unit
  | .element tag attributes children, sheet =>
      let first := restyleAttributes settings attributes sheet
      match first.outcome with
      | .error fault =>
          ⟨(.element tag first.state.1 children, first.state.2), first.notices, .error fault⟩
      | .ok () =>
          let below := restyleForest settings children first.state.2
          ⟨(.element tag first.state.1 below.state.1, below.state.2),
            first.notices ++ below.notices, below.outcome⟩
  | node, sheet => .ok (node, sheet) ()

/-- Restyles nodes one after the other, up to the first fault. -/
def restyleForest (settings : Settings) : List Node → Sheet → Effect (List Node × Sheet) Unit
  | [], sheet => .ok ([], sheet) ()
  | node :: rest, sheet =>
      let first := restyleTree settings node sheet
      match first.outcome with
      | .error fault => ⟨(first.state.1 :: rest, first.state.2), first.notices, .error fault⟩
      | .ok () =>
          let others := restyleForest settings rest first.state.2
          ⟨(first.state.1 :: others.state.1, others.state.2),
            first.notices ++ others.notices, others.outcome⟩

end

end AtomicCss
