import AtomicCss.Style.Printer

/-! # Generated rules

A generated rule is the text of a CSS rule in which a placeholder stands for the selector list,
together with one selector for it. Rules with equal bodies can then share one selector list. -/

namespace AtomicCss

/-- Stands in a rule's body where the selector list goes. -/
def placeholder : Text := "ZTc5OGY2MDUtMTFkNy00ODJmLWI4NmMtZjExYzA5MzdiZjc5".toList

/-- A rule's body and a selector for it. -/
structure GeneratedRule where
  body : Text
  selector : Text
  deriving DecidableEq, Repr

namespace GeneratedRule

/-- The body of a rule with these declarations. -/
def plainBody (declarations : List Style.Declaration) : Text :=
  Style.printBlock placeholder (Style.printDeclarations declarations)

/-- The body of a rule with these declarations inside an at-rule. -/
def atRuleBody (head : Text) (declarations : List Style.Declaration) : Text :=
  Style.printBlock head (plainBody declarations)

end GeneratedRule
end AtomicCss
