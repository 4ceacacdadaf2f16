import AtomicCss.ClassToken
import AtomicCss.Notice
import AtomicCss.Rule.Basic

/-! # Compiling styles

The declarations at a style's top level become one rule, and so does each pseudo-class rule and
each at-rule. Every generated rule has a class of its own, named by a token of the rule's text.
Custom properties at the top level stay inline. -/

namespace AtomicCss

/-- What a style compiles to: classes, the declarations that stay inline, and rules. -/
structure Compiled where
  classes : List Text
  residual : List Style.Declaration
  rules : List GeneratedRule
  deriving DecidableEq, Repr

namespace Compiled

/-- Nothing generated. -/
def empty : Compiled := ⟨[], [], []⟩

/-- One result after the other. -/
def append (a b : Compiled) : Compiled :=
  ⟨a.classes ++ b.classes, a.residual ++ b.residual, a.rules ++ b.rules⟩

instance : Append Compiled := ⟨append⟩

/-- All results in order. -/
def concat (parts : List Compiled) : Compiled := parts.foldr append empty

/-- A summary with the classes spelled out and the rest counted. -/
def summary (compiled : Compiled) : Text :=
  "CompiledCSS(classes=[".toList ++ Text.joinWith [',', ' '] (compiled.classes.map Text.quoted) ++
    "], custom=".toList ++ Text.ofNat compiled.residual.length ++
    ", rules=".toList ++ Text.ofNat compiled.rules.length ++ [')']

/-- The declarations at the top level of a style, named by the token of the body. -/
def ofDeclarations (stem : Text) (declarations : List Style.Declaration) : Compiled :=
  let body := GeneratedRule.plainBody (declarations.filter fun d => !d.isCustom)
  let name := stem ++ ClassToken.ofText body
  ⟨[name], declarations.filter Style.Declaration.isCustom, [⟨body, '.' :: name⟩]⟩

/-- A pseudo-class rule. The selector goes into the token, so that equal blocks under different
pseudo-classes have different classes. -/
def ofPseudoClass (stem : Text) (rule : Style.NestedRule) : Compiled :=
  let body := GeneratedRule.plainBody rule.declarations
  let name := stem ++ ClassToken.ofText (rule.selector ++ ClassToken.ofText body)
  ⟨[name], [], [⟨body, '.' :: name ++ rule.selector⟩]⟩

/-- An at-rule. -/
def ofAtRule (stem : Text) (rule : Style.NestedRule) : Compiled :=
  let body := GeneratedRule.atRuleBody rule.selector rule.declarations
  let name := stem ++ ClassToken.ofText (rule.selector ++ ClassToken.ofText body)
  ⟨[name], [], [⟨body, '.' :: name⟩]⟩

/-- Compiles the items of a style, with `stem` in front of each class. Declarations come first,
then pseudo-class rules, then at-rules; other rules are dropped. -/
def ofItems (stem : Text) (items : List Style.Item) : Compiled :=
  let declarations := items.filterMap Style.Item.declaration?
  let rules := items.filterMap Style.Item.rule?
  let simple := if declarations.isEmpty then empty else ofDeclarations stem declarations
  let pseudoClasses := (rules.filter Style.NestedRule.isPseudoClass).map (ofPseudoClass stem)
  let atRules := (rules.filter Style.NestedRule.isAtRule).map (ofAtRule stem)
  simple ++ concat pseudoClasses ++ concat atRules

end Compiled

/-- One notice for each rule that compiling drops. -/
def droppedRules (items : List Style.Item) : List Notice :=
  ((items.filterMap Style.Item.rule?).filter fun rule =>
    !rule.isAtRule && !rule.isPseudoClass).map fun rule => .unclassifiedSelector rule.selector

end AtomicCss
