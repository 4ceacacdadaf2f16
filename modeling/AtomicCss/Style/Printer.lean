import AtomicCss.Style.Basic

/-! # Writing styles

Declarations are written as `name: value` and rules as `selector { declarations }`, with a
semicolon and a space between each two. -/

namespace AtomicCss.Style

/-- A declaration as `name: value`. -/
def Declaration.print (declaration : Declaration) : Text :=
  declaration.name ++ [':', ' '] ++ declaration.value

/-- Declarations with a semicolon and a space between them. -/
def printDeclarations (declarations : List Declaration) : Text :=
  Text.joinWith [';', ' '] (declarations.map Declaration.print)

/-- `head { content }` -/
def printBlock (head content : Text) : Text := head ++ [' ', '{', ' '] ++ content ++ [' ', '}']

/-- A rule as its selector and a block. -/
def NestedRule.print (rule : NestedRule) : Text :=
  printBlock rule.selector (printDeclarations rule.declarations)

/-- An item of a style. -/
def Item.print : Item → Text
  | declaration d => d.print
  | rule r => r.print

/-- A style whose items are these. -/
def printItems (items : List Item) : Text := Text.joinWith [';', ' '] (items.map Item.print)

end AtomicCss.Style
