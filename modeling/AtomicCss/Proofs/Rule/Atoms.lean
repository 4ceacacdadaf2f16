import AtomicCss.Rule.Compiler
import Mathlib.Data.List.Basic
import Mathlib.Tactic.SplitIfs

/-! # The atoms of a style

An atom is what becomes one class with one rule: the declarations at the top level of a style, a
pseudo-class rule or an at-rule. Compiling a style names the class of each of its atoms by a token
and writes the rule of each; nothing else comes out of it but the custom properties. -/

namespace AtomicCss

open Style

/-- What becomes one class. -/
inductive Atom where
  | plain (declarations : List Declaration)
  | pseudoClass (rule : NestedRule)
  | atRule (rule : NestedRule)
  deriving DecidableEq, Repr

namespace ClassToken

theorem ofText_subset_alphabet (text : Text) : ofText text ⊆ alphabet := by
  intro c hc
  obtain ⟨offset, -, rfl⟩ := List.mem_map.1 hc
  rw [symbol, List.getD_eq_getElem?_getD]
  rcases h : alphabet[field (word text) offset]? with _ | c
  · decide
  · exact List.mem_of_getElem? h

end ClassToken

namespace Atom

/-- The atoms of a style, in the order of its classes. -/
def ofItems (items : List Item) : List Atom :=
  let declarations := items.filterMap Item.declaration?
  let rules := items.filterMap Item.rule?
  (if declarations.isEmpty then [] else [plain declarations]) ++
    (rules.filter NestedRule.isPseudoClass).map pseudoClass ++
    (rules.filter NestedRule.isAtRule).map atRule

/-- The body of the rule. -/
def body : Atom → Text
  | plain declarations => GeneratedRule.plainBody (declarations.filter fun d => !d.isCustom)
  | pseudoClass rule => GeneratedRule.plainBody rule.declarations
  | atRule rule => GeneratedRule.atRuleBody rule.selector rule.declarations

/-- The text whose token ends the name of the class. -/
def key : Atom → Text
  | plain declarations => (plain declarations).body
  | pseudoClass rule => rule.selector ++ ClassToken.ofText (pseudoClass rule).body
  | atRule rule => rule.selector ++ ClassToken.ofText (atRule rule).body

/-- The name of the class. -/
def className (stem : Text) (atom : Atom) : Text := stem ++ ClassToken.ofText atom.key

/-- What the selector of the rule has after the class. -/
def suffix : Atom → Text
  | pseudoClass rule => rule.selector
  | _ => []

/-- The rule of the class. -/
def rule (stem : Text) (atom : Atom) : GeneratedRule :=
  ⟨atom.body, '.' :: (atom.className stem ++ atom.suffix)⟩

/-- The texts of which a token is taken to name the class. -/
def hashed (atom : Atom) : List Text := [atom.body, atom.key]

/-- The items that an atom is made of stand in a style. -/
def ComesFrom (items : List Item) : Atom → Prop
  | plain declarations => ∀ d ∈ declarations, .declaration d ∈ items
  | pseudoClass rule => .rule rule ∈ items
  | atRule rule => .rule rule ∈ items

theorem mem_filterMap_declaration? {items : List Item} {declaration : Declaration} :
    declaration ∈ items.filterMap Item.declaration? ↔ .declaration declaration ∈ items := by
  rw [List.mem_filterMap]
  constructor
  · rintro ⟨item, hitem, heq⟩
    cases item with
    | declaration d => exact Option.some.inj heq ▸ hitem
    | rule r => cases heq
  · intro h
    exact ⟨_, h, rfl⟩

theorem mem_filterMap_rule? {items : List Item} {rule : NestedRule} :
    rule ∈ items.filterMap Item.rule? ↔ .rule rule ∈ items := by
  rw [List.mem_filterMap]
  constructor
  · rintro ⟨item, hitem, heq⟩
    cases item with
    | declaration d => cases heq
    | rule r => exact Option.some.inj heq ▸ hitem
  · intro h
    exact ⟨_, h, rfl⟩

theorem comesFrom_of_mem {items : List Item} {atom : Atom} (h : atom ∈ ofItems items) :
    atom.ComesFrom items := by
  simp only [ofItems, List.mem_append, List.mem_map, List.mem_filter] at h
  rcases h with (h | ⟨rule, ⟨hrule, -⟩, rfl⟩) | ⟨rule, ⟨hrule, -⟩, rfl⟩
  · split_ifs at h
    · exact absurd h List.not_mem_nil
    · rw [List.mem_singleton.1 h]
      exact fun d hd => mem_filterMap_declaration?.1 hd
  · exact mem_filterMap_rule?.1 hrule
  · exact mem_filterMap_rule?.1 hrule

/-- What an atom compiles to. -/
def compile (stem : Text) : Atom → Compiled
  | plain declarations => .ofDeclarations stem declarations
  | pseudoClass rule => .ofPseudoClass stem rule
  | atRule rule => .ofAtRule stem rule

theorem classes_compile (stem : Text) (atom : Atom) :
    (atom.compile stem).classes = [atom.className stem] := by
  cases atom <;> rfl

theorem rules_compile (stem : Text) (atom : Atom) :
    (atom.compile stem).rules = [atom.rule stem] := by
  cases atom <;>
    simp [compile, rule, suffix, Compiled.ofDeclarations, Compiled.ofPseudoClass,
      Compiled.ofAtRule, className, key, body]

end Atom

namespace Compiled

theorem classes_append (first second : Compiled) :
    (first ++ second).classes = first.classes ++ second.classes := rfl

theorem rules_append (first second : Compiled) :
    (first ++ second).rules = first.rules ++ second.rules := rfl

theorem append_assoc (first second third : Compiled) :
    first ++ second ++ third = first ++ (second ++ third) := by
  change append (append first second) third = append first (append second third)
  simp [append]

theorem append_empty (compiled : Compiled) : compiled ++ empty = compiled := by
  change append compiled empty = compiled
  simp [append, empty]

theorem concat_nil : concat [] = empty := rfl

theorem concat_cons (part : Compiled) (parts : List Compiled) :
    concat (part :: parts) = part ++ concat parts := rfl

theorem concat_append (first second : List Compiled) :
    concat (first ++ second) = concat first ++ concat second := by
  induction first with
  | nil => rfl
  | cons part first ih => rw [List.cons_append, concat_cons, concat_cons, ih, append_assoc]

theorem classes_concat (parts : List Compiled) :
    (concat parts).classes = parts.flatMap Compiled.classes := by
  induction parts with
  | nil => rfl
  | cons part parts ih => rw [concat_cons, classes_append, ih, List.flatMap_cons]

theorem rules_concat (parts : List Compiled) :
    (concat parts).rules = parts.flatMap Compiled.rules := by
  induction parts with
  | nil => rfl
  | cons part parts ih => rw [concat_cons, rules_append, ih, List.flatMap_cons]

theorem residual_append (first second : Compiled) :
    (first ++ second).residual = first.residual ++ second.residual := rfl

theorem residual_concat (parts : List Compiled) :
    (concat parts).residual = parts.flatMap Compiled.residual := by
  induction parts with
  | nil => rfl
  | cons part parts ih => rw [concat_cons, residual_append, ih, List.flatMap_cons]

/-- The custom properties at the top level of a style stay inline. -/
theorem residual_ofItems (stem : Text) (items : List Item) :
    (ofItems stem items).residual =
      (items.filterMap Item.declaration?).filter Declaration.isCustom := by
  have hpseudo (rules : List NestedRule) :
      (concat (rules.map (ofPseudoClass stem))).residual = [] := by
    rw [residual_concat, List.flatMap_map]
    exact List.flatMap_eq_nil_iff.2 fun _ _ => rfl
  have hatRules (rules : List NestedRule) :
      (concat (rules.map (ofAtRule stem))).residual = [] := by
    rw [residual_concat, List.flatMap_map]
    exact List.flatMap_eq_nil_iff.2 fun _ _ => rfl
  simp only [ofItems, residual_append, hpseudo, hatRules, List.append_nil]
  split_ifs with hempty
  · rw [List.isEmpty_iff.1 hempty]
    rfl
  · rfl

/-- A style compiles to what its atoms compile to, one after the other. -/
theorem ofItems_eq_concat (stem : Text) (items : List Item) :
    ofItems stem items = concat ((Atom.ofItems items).map (Atom.compile stem)) := by
  simp only [Atom.ofItems, List.map_append, concat_append, List.map_map]
  rw [ofItems]
  congr 2
  split_ifs
  · rfl
  · rw [List.map_singleton, concat_cons, concat_nil, append_empty]
    rfl

/-- A style has one class for each of its atoms. -/
theorem classes_ofItems (stem : Text) (items : List Item) :
    (ofItems stem items).classes = (Atom.ofItems items).map (Atom.className stem) := by
  rw [ofItems_eq_concat, classes_concat, List.flatMap_map, List.map_eq_flatMap]
  simp only [Atom.classes_compile]

/-- A style has one rule for each of its atoms. -/
theorem rules_ofItems (stem : Text) (items : List Item) :
    (ofItems stem items).rules = (Atom.ofItems items).map (Atom.rule stem) := by
  rw [ofItems_eq_concat, rules_concat, List.flatMap_map, List.map_eq_flatMap]
  simp only [Atom.rules_compile]

end Compiled
end AtomicCss
