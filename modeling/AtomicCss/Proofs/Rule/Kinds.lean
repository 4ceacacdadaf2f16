import AtomicCss.Proofs.Rule.Atoms

/-! # Compiling by kinds

Compiling tells four kinds of items apart: declarations, pseudo-class rules, at-rules and other rules.
How the items of different kinds stand among each other makes no difference. Every declaration and
every classified rule comes out once and in its place, and every other rule is reported once. -/

namespace AtomicCss

namespace Style

/-- The kinds of items that compiling tells apart. -/
inductive Kind where
  | declaration
  | pseudoClass
  | atRule
  | other
  deriving DecidableEq

/-- The kind of a rule, by the first character of its selector. -/
def NestedRule.kind (rule : NestedRule) : Kind :=
  match rule.selector.head? with
  | some ':' => .pseudoClass
  | some '@' => .atRule
  | _ => .other

/-- The kind of an item. -/
def Item.kind : Item → Kind
  | declaration _ => .declaration
  | rule r => r.kind

/-- The items of one kind, in order. -/
def ofKind (kind : Kind) (items : List Item) : List Item :=
  items.filter fun item => item.kind = kind

/-- The nested rules of one kind, in order. -/
def rulesOfKind (kind : Kind) (items : List Item) : List NestedRule :=
  (ofKind kind items).filterMap Item.rule?

/-! ## What the kinds tell -/

theorem NestedRule.kind_ne_declaration (rule : NestedRule) : rule.kind ≠ .declaration := by
  rw [kind]
  split <;> decide

theorem NestedRule.isPseudoClass_eq_kind (rule : NestedRule) :
    rule.isPseudoClass = decide (rule.kind = .pseudoClass) := by
  rw [isPseudoClass, kind]
  split <;> simp_all

theorem NestedRule.isAtRule_eq_kind (rule : NestedRule) :
    rule.isAtRule = decide (rule.kind = .atRule) := by
  rw [isAtRule, kind]
  split <;> simp_all

theorem NestedRule.isDropped_eq_kind (rule : NestedRule) :
    (!rule.isAtRule && !rule.isPseudoClass) = decide (rule.kind = .other) := by
  rw [isAtRule_eq_kind, isPseudoClass_eq_kind]
  cases hkind : rule.kind with
  | declaration => exact absurd hkind rule.kind_ne_declaration
  | pseudoClass => rfl
  | atRule => rfl
  | other => rfl

theorem filterMap_declaration?_ofKind (items : List Item) :
    (ofKind .declaration items).filterMap Item.declaration? =
      items.filterMap Item.declaration? := by
  rw [ofKind, List.filterMap_filter]
  apply List.filterMap_congr
  intro item _
  cases item with
  | declaration d => simp [Item.kind]
  | rule r => simp [Item.kind, r.kind_ne_declaration, Item.declaration?]

theorem rulesOfKind_eq {kind : Kind} (items : List Item) :
    rulesOfKind kind items =
      (items.filterMap Item.rule?).filter fun rule => rule.kind = kind := by
  rw [rulesOfKind, ofKind, List.filterMap_filter, List.filter_filterMap]
  apply List.filterMap_congr
  intro item _
  cases item with
  | declaration d => simp [Item.rule?]
  | rule r => by_cases h : r.kind = kind <;> simp [Item.kind, Item.rule?, Option.filter, h]

end Style

open Style

/-- The atoms of a style by the kinds of its items. -/
theorem Atom.ofItems_eq_ofKind (items : List Item) :
    ofItems items =
      (if items.filterMap Item.declaration? = [] then []
        else [plain (items.filterMap Item.declaration?)]) ++
        (rulesOfKind .pseudoClass items).map pseudoClass ++
        (rulesOfKind .atRule items).map atRule := by
  rw [ofItems, rulesOfKind_eq, rulesOfKind_eq, ← funext NestedRule.isPseudoClass_eq_kind,
    ← funext NestedRule.isAtRule_eq_kind]
  simp only [List.isEmpty_iff]

/-- The rules that are dropped are those of no kind that is compiled. -/
theorem droppedRules_eq_ofKind (items : List Item) :
    droppedRules items =
      (rulesOfKind .other items).map fun rule => .unclassifiedSelector rule.selector := by
  rw [droppedRules, rulesOfKind_eq]
  simp only [NestedRule.isDropped_eq_kind]

/-- What compiling some items gives, whatever the names of the classes are. -/
structure IsCompilationOf (items : List Item) (compiled : Compiled) (notices : List Notice) :
    Prop where
  /-- One class for all declarations, one for each pseudo-class rule and one for each at-rule. -/
  length_classes : compiled.classes.length =
    (if items.filterMap Item.declaration? = [] then 0 else 1) +
      (rulesOfKind .pseudoClass items).length + (rulesOfKind .atRule items).length
  length_rules : compiled.rules.length = compiled.classes.length
  /-- Each rule selects its class, and has the body of what it was made from. -/
  rules : compiled.rules =
    List.zipWith (fun atom name => ⟨atom.body, '.' :: (name ++ atom.suffix)⟩)
      ((if items.filterMap Item.declaration? = [] then []
          else [.plain (items.filterMap Item.declaration?)]) ++
        (rulesOfKind .pseudoClass items).map Atom.pseudoClass ++
        (rulesOfKind .atRule items).map Atom.atRule)
      compiled.classes
  residual : compiled.residual = (items.filterMap Item.declaration?).filter Declaration.isCustom
  notices : notices =
    (rulesOfKind .other items).map fun rule => .unclassifiedSelector rule.selector

theorem isCompilationOf_ofItems (stem : Text) (items : List Item) :
    IsCompilationOf items (Compiled.ofItems stem items) (droppedRules items) where
  length_classes := by
    rw [Compiled.classes_ofItems, List.length_map, Atom.ofItems_eq_ofKind, List.length_append,
      List.length_append, List.length_map, List.length_map]
    split_ifs <;> rfl
  length_rules := by
    rw [Compiled.rules_ofItems, Compiled.classes_ofItems, List.length_map, List.length_map]
  rules := by
    rw [← Atom.ofItems_eq_ofKind, Compiled.rules_ofItems, Compiled.classes_ofItems,
      List.zipWith_map_right, List.zipWith_self]
    rfl
  residual := Compiled.residual_ofItems stem items
  notices := droppedRules_eq_ofKind items

/-- Compiling loses, repeats and reorders nothing: the declarations have one class and one rule, each
pseudo-class rule and then each at-rule has one, in this order, and each of the other rules is
reported. So the items of different kinds can be moved past each other without a change. -/
theorem compiles_by_kind (stem : Text) (items : List Item) :
    IsCompilationOf items (Compiled.ofItems stem items) (droppedRules items) ∧
      ∀ others, (∀ kind, ofKind kind others = ofKind kind items) →
        Compiled.ofItems stem others = Compiled.ofItems stem items ∧
          droppedRules others = droppedRules items := by
  refine ⟨isCompilationOf_ofItems stem items, ?_⟩
  intro others hkinds
  have hrules : ∀ kind, rulesOfKind kind others = rulesOfKind kind items := by
    intro kind
    rw [rulesOfKind, hkinds, rulesOfKind]
  have hdeclarations : others.filterMap Item.declaration? = items.filterMap Item.declaration? := by
    rw [← filterMap_declaration?_ofKind, hkinds, filterMap_declaration?_ofKind]
  have hatoms : Atom.ofItems others = Atom.ofItems items := by
    simp only [Atom.ofItems_eq_ofKind, hrules, hdeclarations]
  constructor
  · rw [Compiled.ofItems_eq_concat, Compiled.ofItems_eq_concat, hatoms]
  · rw [droppedRules_eq_ofKind, droppedRules_eq_ofKind, hrules]

/-- Items of all kinds, some of which no style text is read as. -/
def scatteredItems : List Item :=
  [.rule ⟨":hover".toList, [⟨"--a".toList, ['1']⟩]⟩, .declaration ⟨"color".toList, "a;b".toList⟩,
    .rule ⟨" :focus".toList, []⟩, .rule ⟨"@media".toList, [⟨[], ['x']⟩]⟩,
    .declaration ⟨"--x".toList, []⟩, .rule ⟨":h".toList, []⟩]

/-- The same items with the rules first, each kind in its order. -/
def gatheredItems : List Item :=
  [.rule ⟨" :focus".toList, []⟩, .rule ⟨"@media".toList, [⟨[], ['x']⟩]⟩,
    .rule ⟨":hover".toList, [⟨"--a".toList, ['1']⟩]⟩, .rule ⟨":h".toList, []⟩,
    .declaration ⟨"color".toList, "a;b".toList⟩, .declaration ⟨"--x".toList, []⟩]

/-- They compile to the same four classes, and the rule that is neither is reported. -/
theorem gatheredItems_compiled_alike :
    (∀ kind, ofKind kind gatheredItems = ofKind kind scatteredItems) ∧
      Compiled.ofItems [] gatheredItems = Compiled.ofItems [] scatteredItems ∧
      (Compiled.ofItems [] scatteredItems).classes.length = 4 ∧
      droppedRules gatheredItems = [.unclassifiedSelector " :focus".toList] := by
  have hkinds : ∀ kind, ofKind kind gatheredItems = ofKind kind scatteredItems := by
    intro kind
    cases kind <;> decide
  obtain ⟨hexact, hsame⟩ := compiles_by_kind [] scatteredItems
  obtain ⟨hcompiled, hdropped⟩ := hsame gatheredItems hkinds
  refine ⟨hkinds, hcompiled, hexact.length_classes.trans (by decide), ?_⟩
  rw [hdropped, hexact.notices]
  decide

end AtomicCss
