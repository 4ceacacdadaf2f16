import AtomicCss.Text.Blank

/-! # Styles

An inline style is a sequence of items: declarations, and rules that are nested one level
deep. -/

namespace AtomicCss.Style

/-- A property and its value. -/
structure Declaration where
  name : Text
  value : Text
  deriving DecidableEq, Repr

/-- A selector or an at-rule's head with the declarations of its block. -/
structure NestedRule where
  selector : Text
  declarations : List Declaration
  deriving DecidableEq, Repr

/-- One item of a style. -/
inductive Item where
  | declaration (declaration : Declaration)
  | rule (rule : NestedRule)
  deriving DecidableEq, Repr

/-- A custom property is one whose name starts with two hyphens. -/
def Declaration.isCustom (declaration : Declaration) : Bool :=
  ['-', '-'].isPrefixOf declaration.name

/-- A declaration is complete when it has a name and a value. -/
def Declaration.isComplete (declaration : Declaration) : Bool :=
  !declaration.name.isEmpty && !declaration.value.isEmpty

/-- An at-rule is a nested rule whose selector starts with an at sign. -/
def NestedRule.isAtRule (rule : NestedRule) : Bool := rule.selector.head? == some '@'

/-- A pseudo-class rule is a nested rule whose selector starts with a colon. -/
def NestedRule.isPseudoClass (rule : NestedRule) : Bool := rule.selector.head? == some ':'

/-- The declaration of an item, if it is one. -/
def Item.declaration? : Item → Option Declaration
  | declaration d => some d
  | rule _ => none

/-- The nested rule of an item, if it is one. -/
def Item.rule? : Item → Option NestedRule
  | declaration _ => none
  | rule r => some r

end AtomicCss.Style
