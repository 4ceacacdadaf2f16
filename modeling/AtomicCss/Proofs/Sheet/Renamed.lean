import AtomicCss.Proofs.Sheet.Order
import Mathlib.Data.List.Forall2

/-! # Sheets with renamed classes

Compiling styles with two different stems gives the same but for the names of the classes. A stem in
front of a text loses nothing of it, so two selectors are equal with one stem where they are equal
with the other one, also if a stem is empty or starts with the other one. Merging therefore finds the
same selectors to be there already, and the two sheets correspond entry by entry. -/

namespace AtomicCss

open Style

/-! ## Changing the selectors of a sheet -/

/-- The rule with its selector changed. -/
def GeneratedRule.mapSelector (f : Text → Text) (rule : GeneratedRule) : GeneratedRule :=
  ⟨rule.body, f rule.selector⟩

/-- The sheet with each selector changed. -/
def Sheet.mapSelectors (f : Text → Text) (sheet : Sheet) : Sheet :=
  ⟨OrderedMap.mapValues (List.map f) sheet.entries⟩

namespace Sheet

section

variable (f : Text → Text) (sheet : Sheet)

theorem bodies_mapSelectors : (sheet.mapSelectors f).bodies = sheet.bodies :=
  OrderedMap.names_mapValues _ _

theorem selectors_mapSelectors (body : Text) :
    (sheet.mapSelectors f).selectors body = (sheet.selectors body).map f := by
  rw [selectors, mapSelectors, OrderedMap.get?_mapValues, selectors]
  cases OrderedMap.get? body sheet.entries with
  | none => rfl
  | some shared => rfl

end

section

variable {f : Text → Text} (hf : Function.Injective f)

include hf

theorem map_addSelector (selector : Text) (selectors : List Text) :
    (addSelector selector selectors).map f = addSelector (f selector) (selectors.map f) := by
  by_cases hmem : selector ∈ selectors
  · rw [addSelector_of_mem hmem, addSelector_of_mem (List.mem_map_of_mem hmem)]
  · have hmem' : f selector ∉ selectors.map f := mt (List.mem_map_of_injective hf).1 hmem
    rw [addSelector_of_notMem hmem, addSelector_of_notMem hmem', List.map_append,
      List.map_singleton]

/-- A change that keeps selectors apart can be made before or after a merge. -/
theorem mapSelectors_merge (rule : GeneratedRule) (sheet : Sheet) :
    (sheet.merge rule).mapSelectors f = (sheet.mapSelectors f).merge (rule.mapSelector f) := by
  rw [mapSelectors, merge, merge, GeneratedRule.mapSelector]
  congr 1
  apply OrderedMap.mapValues_alter
  intro shared
  rw [map_addSelector hf]
  cases shared with
  | none => rfl
  | some selectors => rfl

theorem mapSelectors_mergeAll (rules : List GeneratedRule) (sheet : Sheet) :
    (sheet.mergeAll rules).mapSelectors f =
      (sheet.mapSelectors f).mergeAll (rules.map (GeneratedRule.mapSelector f)) := by
  induction rules generalizing sheet with
  | nil => rfl
  | cons rule rules ih => rw [mergeAll_cons, ih, mapSelectors_merge hf, List.map_cons, mergeAll_cons]

end

end Sheet

/-! ## Texts with another start -/

/-- Two texts that are alike after `first` and `second`, with which they start. -/
def ReplacesStart (first second text other : Text) : Prop :=
  ∃ rest, text = first ++ rest ∧ other = second ++ rest

theorem forall₂_replacesStart {α : Type} (first second : Text) (rest : α → Text) (items : List α) :
    List.Forall₂ (ReplacesStart first second) (items.map fun item => first ++ rest item)
      (items.map fun item => second ++ rest item) := by
  rw [List.forall₂_map_left_iff, List.forall₂_map_right_iff, List.forall₂_same]
  intro item _
  exact ⟨rest item, rfl, rfl⟩

/-! ## Compiling with another stem -/

/-- The settings with another stem of the class names. -/
def Settings.withStem (stem : Text) (settings : Settings) : Settings :=
  { settings with classStem := stem }

namespace Atom

/-- What the selector of an atom has after the stem. -/
def tail (atom : Atom) : Text := ClassToken.ofText atom.key ++ atom.suffix

theorem selector_rule (stem : Text) (atom : Atom) :
    (atom.rule stem).selector = '.' :: stem ++ atom.tail := by
  rw [rule, className, tail, List.append_assoc, List.cons_append]

/-- The rule of an atom without a class to select. -/
def bareRule (atom : Atom) : GeneratedRule := ⟨atom.body, atom.tail⟩

theorem mapSelector_bareRule (stem : Text) (atom : Atom) :
    atom.bareRule.mapSelector ('.' :: stem ++ ·) = atom.rule stem := by
  rw [GeneratedRule.mapSelector, bareRule, ← selector_rule]
  rfl

end Atom

/-- The sheet of style texts with a stem is one sheet for all stems, with the stem put in front of
its selectors. -/
theorem collect_withStem (settings : Settings) (stem : Text) (texts : List Text) :
    collect (settings.withStem stem) texts =
      (Sheet.empty.mergeAll ((texts.flatMap (Atom.ofText settings.strict)).map
        Atom.bareRule)).mapSelectors ('.' :: stem ++ ·) := by
  calc
    collect (settings.withStem stem) texts =
        Sheet.empty.mergeAll
          ((texts.flatMap (Atom.ofText settings.strict)).map (Atom.rule stem)) :=
      collect_eq_mergeAll_ofText _ _
    _ = Sheet.empty.mergeAll (((texts.flatMap (Atom.ofText settings.strict)).map
        Atom.bareRule).map (GeneratedRule.mapSelector ('.' :: stem ++ ·))) := by
      rw [List.map_map, ← funext (Atom.mapSelector_bareRule stem)]
      rfl
    _ = _ := by
      rw [Sheet.mapSelectors_mergeAll (List.append_right_injective _)]
      rfl

/-- What two compilations of one style have in common that differ by the stem only. -/
structure RenamesStem (first second : Text) (compiled other : Compiled) : Prop where
  classes : List.Forall₂ (ReplacesStart first second) compiled.classes other.classes
  residual : compiled.residual = other.residual
  bodies : compiled.rules.map GeneratedRule.body = other.rules.map GeneratedRule.body
  selectors : List.Forall₂ (ReplacesStart ('.' :: first) ('.' :: second))
    (compiled.rules.map GeneratedRule.selector) (other.rules.map GeneratedRule.selector)

theorem renamesStem_ofItems (first second : Text) (items : List Item) :
    RenamesStem first second (Compiled.ofItems first items) (Compiled.ofItems second items) where
  classes := by
    rw [Compiled.classes_ofItems, Compiled.classes_ofItems]
    exact forall₂_replacesStart first second _ _
  residual := by rw [Compiled.residual_ofItems, Compiled.residual_ofItems]
  bodies := by
    rw [Compiled.rules_ofItems, Compiled.rules_ofItems, List.map_map, List.map_map]
    rfl
  selectors := by
    simp only [Compiled.rules_ofItems, List.map_map, Function.comp_def, Atom.selector_rule]
    exact forall₂_replacesStart _ _ _ _

variable {settings : Settings} {texts : List Text}

theorem compileStyle_withStem {text : Text} {items : List Item}
    (h : (parse settings.strict text).outcome = .ok items) (stem : Text) :
    compileStyle (settings.withStem stem) text =
      ⟨(parse settings.strict text).notices ++ droppedRules items,
        .ok (Compiled.ofItems stem items)⟩ :=
  Logged.andThen_of_ok h _

/-- The stem only names classes. The sheets into which styles are compiled with two stems have the
same bodies in the same order, and the selectors of each body differ by the stem and nothing else.
Each style gives the same notices and keeps the same declarations inline, and its classes differ by
the stem. -/
theorem collect_renamed (first second : Text)
    (hread : ∀ text ∈ texts, ∃ items, (parse settings.strict text).outcome = .ok items) :
    (collect (settings.withStem first) texts).bodies =
      (collect (settings.withStem second) texts).bodies ∧
    (∀ body, List.Forall₂ (ReplacesStart ('.' :: first) ('.' :: second))
      ((collect (settings.withStem first) texts).selectors body)
      ((collect (settings.withStem second) texts).selectors body)) ∧
    ∀ text ∈ texts, ∃ notices compiled other,
      compileStyle (settings.withStem first) text = ⟨notices, .ok compiled⟩ ∧
        compileStyle (settings.withStem second) text = ⟨notices, .ok other⟩ ∧
        RenamesStem first second compiled other ∧
        ∀ existing, ∃ style,
          restyle (settings.withStem first) text existing =
              ⟨notices, .ok ⟨joinClasses existing compiled.classes, style, compiled.rules⟩⟩ ∧
            restyle (settings.withStem second) text existing =
              ⟨notices, .ok ⟨joinClasses existing other.classes, style, other.rules⟩⟩ := by
  refine ⟨?_, ?_, ?_⟩
  · rw [collect_withStem, collect_withStem, Sheet.bodies_mapSelectors, Sheet.bodies_mapSelectors]
  · intro body
    rw [collect_withStem, collect_withStem, Sheet.selectors_mapSelectors,
      Sheet.selectors_mapSelectors]
    exact forall₂_replacesStart _ _ id _
  · intro text htext
    obtain ⟨items, hparse⟩ := hread text htext
    have hfirst := compileStyle_withStem hparse first
    have hsecond := compileStyle_withStem hparse second
    have hrenames := renamesStem_ofItems first second items
    refine ⟨_, _, _, hfirst, hsecond, hrenames, ?_⟩
    intro existing
    rw [restyle, restyle, hfirst, hsecond]
    exact ⟨_, rfl, by rw [hrenames.residual]; rfl⟩

/-- Two styles with one rule in common, and between them a style whose rule has the same body. -/
def sharedTexts : List Text :=
  ["color: red".toList, ":hover \x7b color: red \x7d".toList, "color: red; --x: 1".toList]

/-- With an empty stem and with one that is not, the rule in common is merged once. -/
theorem sharedTexts_renamed :
    let bare := collect (Settings.standard.withStem []) sharedTexts
    let named := collect (Settings.standard.withStem "hw_".toList) sharedTexts
    let body := GeneratedRule.plainBody [⟨"color".toList, "red".toList⟩]
    (∀ text ∈ sharedTexts, ∃ items, (parse false text).outcome = .ok items) ∧
      bare.selectors body = [".CTY41".toList, ".h8iMG:hover".toList] ∧
      bare.bodies = named.bodies ∧
      List.Forall₂ (ReplacesStart ['.'] ".hw_".toList) (bare.selectors body)
        (named.selectors body) := by
  intro bare named body
  have hread : ∀ text ∈ sharedTexts, ∃ items, (parse false text).outcome = .ok items := by
    simp only [sharedTexts, List.forall_mem_cons]
    exact ⟨⟨_, rfl⟩, ⟨_, rfl⟩, ⟨_, rfl⟩, List.forall_mem_nil _⟩
  obtain ⟨hbodies, hselectors, -⟩ :=
    @collect_renamed .standard sharedTexts [] "hw_".toList hread
  exact ⟨hread, by decide +kernel, hbodies, hselectors body⟩

end AtomicCss
