import AtomicCss.Settings
import AtomicCss.Rule.Compiler
import AtomicCss.Style.Parser

/-! # Restyling

Restyling an element puts classes in the place of its inline style: `restyle` gives the value of
its `class`, the style that stays inline, and the rules for the sheet. -/

namespace AtomicCss

/-- What takes the place of an inline style. -/
structure Restyled where
  /-- The new class value, if any class is known. -/
  classes : Option Text
  /-- The style that stays inline, if any does. -/
  style : Option Text
  rules : List GeneratedRule
  deriving DecidableEq, Repr

/-- Reads and compiles a style text. -/
def compileStyle (settings : Settings) (style : Text) : Logged Style.StyleError Compiled :=
  (Style.parse settings.strict style).andThen fun items =>
    ⟨droppedRules items, .ok (Compiled.ofItems settings.classStem items)⟩

/-- The classes an element has already, followed by the generated ones. -/
def joinClasses (existing : Option Text) (generated : List Text) : Option Text :=
  let classes := (existing.toList.filter fun text => !text.isEmpty) ++ generated
  if classes.isEmpty then none else some (Text.joinWith [' '] classes)

/-- Compiles the style of an element that has the class value `existing`. -/
def restyle (settings : Settings) (style : Text) (existing : Option Text) :
    Logged Style.StyleError Restyled :=
  (compileStyle settings style).map fun compiled =>
    { classes := joinClasses existing compiled.classes
      style :=
        if compiled.residual.isEmpty then none
        else some (Style.printDeclarations compiled.residual)
      rules := compiled.rules }

end AtomicCss
