import AtomicCss.Proofs.Restyle.Agreement
import AtomicCss.Proofs.Restyle.Run
import AtomicCss.Proofs.Sheet.ReadBack

/-! # The style that stays inline

Restyling leaves the custom properties of a style inline, and puts the other top-level declarations
into the body of a rule. What stays is a style that can be read again. It has the custom properties
and nothing else, so restyling it once more leaves it as it is and gives only the class of a rule
without declarations. -/

namespace AtomicCss

open Style

/-! ## Parts of a style that are read again -/

section

variable {strict : Bool} {text : Text} {items : List Item} {declarations : List Declaration}

theorem isCanonical_of_subset (h : (parse strict text).outcome = .ok items)
    (hsubset : declarations ⊆ items.filterMap Item.declaration?) :
    ∀ d ∈ declarations, d.IsCanonical := by
  intro d hd
  exact isCanonical_of_parse h _ (Atom.mem_filterMap_declaration?.1 (hsubset hd))

theorem subset_flatMap_declarations (hsubset : declarations ⊆ items.filterMap Item.declaration?) :
    declarations ⊆ items.flatMap Item.declarations := by
  intro d hd
  have hitem := Atom.mem_filterMap_declaration?.1 (hsubset hd)
  exact List.mem_flatMap.2 ⟨_, hitem, List.mem_singleton_self d⟩

/-- Top-level declarations are read again by the reader that read them. -/
theorem outcome_parse_printDeclarations (h : (parse strict text).outcome = .ok items)
    (hsubset : declarations ⊆ items.filterMap Item.declaration?) :
    (parse strict (printDeclarations declarations)).outcome =
      .ok (declarations.map .declaration) := by
  rw [← printItems_map_declaration]
  apply outcome_parse_printItems_of_subset h
  · simpa [Item.IsCanonical] using isCanonical_of_subset h hsubset
  · rw [flatMap_declarations_map]
    exact subset_flatMap_declarations hsubset

/-- So is the body of a rule that they are put into. -/
theorem outcome_parse_plainBody (h : (parse strict text).outcome = .ok items)
    (hsubset : declarations ⊆ items.filterMap Item.declaration?) :
    (parse strict (GeneratedRule.plainBody declarations)).outcome =
      .ok [.rule ⟨placeholder, declarations⟩] := by
  have hplaceholder : IsPiece placeholder := ⟨by decide, by decide⟩
  have hbody : GeneratedRule.plainBody declarations =
      printItems [.rule ⟨placeholder, declarations⟩] := rfl
  rw [hbody]
  apply outcome_parse_printItems_of_subset h
  · intro item hitem
    rw [List.mem_singleton.1 hitem]
    exact ⟨hplaceholder, isCanonical_of_subset h hsubset⟩
  · rw [List.flatMap_singleton]
    exact subset_flatMap_declarations hsubset

end

/-! ## Compiling declarations and nested rules -/

namespace GeneratedRule

variable (stem : Text) (declarations : List Declaration)

/-- The class of a rule with these declarations. -/
def plainClass : Text := stem ++ ClassToken.ofText (plainBody declarations)

/-- A rule with these declarations for the elements of its class. -/
def plain : GeneratedRule := ⟨plainBody declarations, '.' :: plainClass stem declarations⟩

end GeneratedRule

section

variable (stem : Text) {items : List Item} {declarations : List Declaration}

@[simp]
theorem filterMap_declaration?_map_rule (rules : List NestedRule) :
    (rules.map Item.rule).filterMap Item.declaration? = [] := by
  simp [List.filterMap_map, Function.comp_def, Item.declaration?]

@[simp]
theorem filterMap_rule?_map_rule (rules : List NestedRule) :
    (rules.map Item.rule).filterMap Item.rule? = rules := by
  simp [List.filterMap_map, Function.comp_def, Item.rule?]

@[simp]
theorem filterMap_declaration?_map_declaration (declarations : List Declaration) :
    (declarations.map Item.declaration).filterMap Item.declaration? = declarations := by
  simp [List.filterMap_map, Function.comp_def, Item.declaration?]

@[simp]
theorem filterMap_rule?_map_declaration (declarations : List Declaration) :
    (declarations.map Item.declaration).filterMap Item.rule? = [] := by
  simp [List.filterMap_map, Function.comp_def, Item.rule?]

/-- The nested rules of a style give the atoms after that of its top-level declarations. -/
theorem Atom.ofItems_eq_plain_cons (h : items.filterMap Item.declaration? ≠ []) :
    ofItems items = plain (items.filterMap Item.declaration?) ::
      ofItems ((items.filterMap Item.rule?).map .rule) := by
  simp only [ofItems, filterMap_declaration?_map_rule, filterMap_rule?_map_rule]
  rw [if_neg (by simpa using h)]
  rfl

theorem Atom.rule_plain :
    (plain declarations).rule stem =
      GeneratedRule.plain stem (declarations.filter fun d => !d.isCustom) := by
  simp only [rule, suffix, List.append_nil]
  rfl

/-- The rule of the top-level declarations comes before those of the nested rules. Its body has the
declarations that are not custom properties. -/
theorem Compiled.rules_ofItems_eq_cons (h : items.filterMap Item.declaration? ≠ []) :
    (ofItems stem items).rules =
      GeneratedRule.plain stem ((items.filterMap Item.declaration?).filter fun d => !d.isCustom) ::
        (ofItems stem ((items.filterMap Item.rule?).map .rule)).rules := by
  rw [rules_ofItems, Atom.ofItems_eq_plain_cons h, List.map_cons, Atom.rule_plain, rules_ofItems]

theorem Compiled.ofItems_map_declaration (h : declarations ≠ []) :
    ofItems stem (declarations.map .declaration) = ofDeclarations stem declarations := by
  rw [ofItems]
  simp only [filterMap_declaration?_map_declaration, filterMap_rule?_map_declaration]
  rw [if_neg (by simpa using h)]
  exact (append_empty _).trans (append_empty _)

/-- Custom properties alone stay as they are, and give a rule without declarations. -/
theorem Compiled.ofDeclarations_custom (h : ∀ d ∈ declarations, d.isCustom) :
    ofDeclarations stem declarations =
      ⟨[GeneratedRule.plainClass stem []], declarations, [GeneratedRule.plain stem []]⟩ := by
  have hkept : declarations.filter Declaration.isCustom = declarations := List.filter_eq_self.2 h
  have hdropped : (declarations.filter fun d => !d.isCustom) = [] := by
    rw [List.filter_eq_nil_iff]
    intro d hd
    simp [h d hd]
  rw [ofDeclarations, hkept, hdropped]
  rfl

end

/-! ## Restyling what stays -/

theorem get?_style_putInto (restyled : Restyled) (attributes : OrderedMap Value) :
    OrderedMap.get? styleName (restyled.putInto attributes) = restyled.style.map Value.text := by
  rw [Restyled.putInto]
  cases restyled.style with
  | none => exact OrderedMap.get?_erase_self _ _
  | some style => exact OrderedMap.get?_alter_self _ _ _

theorem Restyled.style_ofItems {stem : Text} {existing : Option Text} {items : List Item}
    (h : (items.filterMap Item.declaration?).filter Declaration.isCustom ≠ []) :
    (Restyled.ofItems stem existing items).style =
      some (printDeclarations ((items.filterMap Item.declaration?).filter Declaration.isCustom)) := by
  simp only [Restyled.ofItems, Compiled.residual_ofItems]
  rw [if_neg (by simpa using h)]

/-- A mapping with a style that has custom properties keeps these, and the rules of the style go into
the sheet. -/
theorem exists_outcome_restyleMapping {settings : Settings} {tag : Option Text}
    {attributes : OrderedMap Value} {style : Text} {items : List Item}
    (hstyle : (Subject.mapping tag attributes).style? = some style)
    (hparse : (parse settings.strict style).outcome = .ok items)
    (hcustom : (items.filterMap Item.declaration?).filter Declaration.isCustom ≠ [])
    (sheet : Sheet) :
    ∃ after, (restyleMapping settings tag attributes sheet).outcome =
        .ok (after, sheet.mergeAll (Compiled.ofItems settings.classStem items).rules) ∧
      OrderedMap.get? styleName after = some (.text
        (printDeclarations ((items.filterMap Item.declaration?).filter Declaration.isCustom))) := by
  let existing := (Subject.mapping tag attributes).classValue?
  refine ⟨(Restyled.ofItems settings.classStem existing items).putInto attributes, ?_, ?_⟩
  · rw [outcome_restyleMapping hstyle, outcome_restyle, hparse]
    rfl
  · rw [get?_style_putInto, Restyled.style_ofItems hcustom]
    rfl

/-- The mapping of an element that has a style and nothing else. -/
def styleMapping (style : Text) : OrderedMap Value := [(styleName, .text style)]

section

variable {settings : Settings} {declarations : List Declaration} (hne : declarations ≠ [])
  (hcustom : ∀ d ∈ declarations, d.isCustom)
  (hparse : (parse settings.strict (printDeclarations declarations)).outcome =
    .ok (declarations.map .declaration))

include hne hcustom hparse

/-- A style of custom properties alone keeps them, and has only the class of a rule without
declarations. -/
theorem outcome_compileStyle_custom :
    (compileStyle settings (printDeclarations declarations)).outcome =
      .ok ⟨[GeneratedRule.plainClass settings.classStem []], declarations,
        [GeneratedRule.plain settings.classStem []]⟩ := by
  calc
    (compileStyle settings (printDeclarations declarations)).outcome =
        .ok (Compiled.ofItems settings.classStem (declarations.map .declaration)) := by
      rw [outcome_compileStyle, hparse]
      rfl
    _ = .ok (Compiled.ofDeclarations settings.classStem declarations) := by
      rw [Compiled.ofItems_map_declaration _ hne]
    _ = _ := by rw [Compiled.ofDeclarations_custom _ hcustom]

/-- Restyling such a style leaves it as it is. -/
theorem outcome_restyleMapping_custom (tag : Option Text) (sheet : Sheet) :
    (restyleMapping settings tag (styleMapping (printDeclarations declarations)) sheet).outcome =
      .ok (styleMapping (printDeclarations declarations) ++
          [(className, .text (GeneratedRule.plainClass settings.classStem []))],
        sheet.merge (GeneratedRule.plain settings.classStem [])) := by
  have hstyle : (Subject.mapping tag (styleMapping (printDeclarations declarations))).style? =
      some (printDeclarations declarations) := rfl
  have hclass : (Subject.mapping tag (styleMapping (printDeclarations declarations))).classValue? =
      none := rfl
  rw [outcome_restyleMapping hstyle, hclass, restyle, Logged.outcome_map,
    outcome_compileStyle_custom hne hcustom hparse]
  simp only [Except.map, List.isEmpty_eq_false_iff.2 hne]
  rfl

end

/-- A style with a custom property at its top level leaves a style that the same reader reads as
these custom properties, in their order. Compiling and restyling what is left keeps it, and gives
only the class of a rule without declarations. The other top-level declarations make up the body of
the first rule of the style, and reading the body gives them back, so each top-level declaration is
either in the style that is left or in that body. -/
theorem restyleMapping_residual {settings : Settings} {tag : Option Text}
    {attributes : OrderedMap Value} {style : Text} {items : List Item}
    (hstyle : (Subject.mapping tag attributes).style? = some style)
    (hparse : (parse settings.strict style).outcome = .ok items)
    (hcustom : ∃ declaration, .declaration declaration ∈ items ∧ declaration.isCustom)
    (sheet : Sheet) :
    let declarations := items.filterMap Item.declaration?
    let custom := declarations.filter Declaration.isCustom
    let others := declarations.filter fun d => !d.isCustom
    let residual := printDeclarations custom
    (∃ after, (restyleMapping settings tag attributes sheet).outcome =
        .ok (after, sheet.mergeAll (GeneratedRule.plain settings.classStem others ::
          (Compiled.ofItems settings.classStem
            ((items.filterMap Item.rule?).map .rule)).rules)) ∧
      OrderedMap.get? styleName after = some (.text residual)) ∧
    (parse settings.strict residual).outcome = .ok (custom.map .declaration) ∧
    (compileStyle settings residual).outcome =
      .ok ⟨[GeneratedRule.plainClass settings.classStem []], custom,
        [GeneratedRule.plain settings.classStem []]⟩ ∧
    (∀ tag' sheet', (restyleMapping settings tag' (styleMapping residual) sheet').outcome =
      .ok (styleMapping residual ++
          [(className, .text (GeneratedRule.plainClass settings.classStem []))],
        sheet'.merge (GeneratedRule.plain settings.classStem []))) ∧
    (parse settings.strict (GeneratedRule.plainBody others)).outcome =
      .ok [.rule ⟨placeholder, others⟩] ∧
    (custom ++ others).Perm declarations := by
  intro declarations custom others residual
  obtain ⟨declaration, hitem, hdeclaration⟩ := hcustom
  have hmem : declaration ∈ declarations := Atom.mem_filterMap_declaration?.2 hitem
  have hne : custom ≠ [] := List.ne_nil_of_mem (List.mem_filter.2 ⟨hmem, hdeclaration⟩)
  have hall : ∀ d ∈ custom, d.isCustom := fun d hd => (List.mem_filter.1 hd).2
  have hread : (parse settings.strict residual).outcome = .ok (custom.map .declaration) :=
    outcome_parse_printDeclarations hparse (List.filter_subset_self _)
  refine ⟨?_, hread, outcome_compileStyle_custom hne hall hread,
    outcome_restyleMapping_custom hne hall hread, ?_, ?_⟩
  · -- the rule of the top-level declarations, and then those of the nested rules
    rw [← Compiled.rules_ofItems_eq_cons settings.classStem (List.ne_nil_of_mem hmem)]
    exact exists_outcome_restyleMapping hstyle hparse hne sheet
  · exact outcome_parse_plainBody hparse (List.filter_subset_self _)
  · exact List.filter_append_perm _ declarations

/-- A style with a custom property that has no value, and with one inside a nested rule. -/
def valuelessCustom : Text := "--a; color: red; :h\x7b--c: 2\x7d; --b:1".toList

/-- The two at the top level stay, and restyling them gives the class of a rule without
declarations. -/
theorem valuelessCustom_residual :
    (∃ after sheet,
      (restyleMapping .standard none (styleMapping valuelessCustom) .empty).outcome =
          .ok (after, sheet) ∧
        OrderedMap.get? styleName after = some (.text "--a: ; --b: 1".toList)) ∧
      (parse false "--a: ; --b: 1".toList).outcome =
        .ok [.declaration ⟨"--a".toList, []⟩, .declaration ⟨"--b".toList, ['1']⟩] ∧
      (compileStyle .standard "--a: ; --b: 1".toList).outcome.map Compiled.classes =
        .ok ["hw_uT82Y".toList] := by
  have hclass : GeneratedRule.plainClass "hw_".toList [] = "hw_uT82Y".toList := by decide +kernel
  have hparse : (parse false valuelessCustom).outcome =
      .ok [.declaration ⟨"--a".toList, []⟩, .declaration ⟨"color".toList, "red".toList⟩,
        .rule ⟨":h".toList, [⟨"--c".toList, ['2']⟩]⟩, .declaration ⟨"--b".toList, ['1']⟩] := rfl
  obtain ⟨⟨after, hafter, hstyle⟩, hread, hcompile, -⟩ :=
    @restyleMapping_residual .standard none (styleMapping valuelessCustom) _ _ rfl hparse
      ⟨⟨"--a".toList, []⟩, by decide, rfl⟩ .empty
  refine ⟨⟨after, _, hafter, hstyle⟩, hread, ?_⟩
  rw [← hclass]
  exact congrArg (Except.map Compiled.classes) hcompile

end AtomicCss
