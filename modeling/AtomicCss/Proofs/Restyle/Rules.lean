import AtomicCss.Proofs.Restyle.Classes
import AtomicCss.Proofs.Restyle.Traversal
import AtomicCss.Proofs.Rule.Atoms

/-! # The rules that a tree brings

Restyling the elements of a tree merges the rules of their styles in document order. It ends with the
first element that cannot be restyled, whose rules are still merged if its style can be read. -/

namespace AtomicCss

open Markup

/-- The rules of the style of an element, none if it has no style that can be read. -/
def rulesOf (settings : Settings) (attributes : Attributes) : List GeneratedRule :=
  match Attributes.text? styleName attributes with
  | none => []
  | some style =>
      match (compileStyle settings style).outcome with
      | .error _ => []
      | .ok compiled => compiled.rules

/-- Whether the attributes of an element cannot be restyled. -/
def isRefused (settings : Settings) (attributes : Attributes) : Bool :=
  (restyleAttributes settings attributes .empty).outcome.isOk = false

/-- The rules of elements, up to the first one that cannot be restyled. -/
def rulesThrough (settings : Settings) : List (Text × Attributes) → List GeneratedRule
  | [] => []
  | element :: rest =>
      rulesOf settings element.2 ++
        if isRefused settings element.2 then [] else rulesThrough settings rest

variable {settings : Settings} {attributes : Attributes}

/-- Restyling an element merges its rules and has the same outcome for every sheet. -/
theorem restyleAttributes_sheet (settings : Settings) (attributes : Attributes) (sheet : Sheet) :
    (restyleAttributes settings attributes sheet).state.2 =
        sheet.mergeAll (rulesOf settings attributes) ∧
      (restyleAttributes settings attributes sheet).outcome =
        (restyleAttributes settings attributes .empty).outcome := by
  rw [rulesOf]
  cases hstyle : Attributes.text? styleName attributes with
  | none => simp [restyleAttributes, hstyle, Effect.ok]
  | some style =>
      cases hcompile : (compileStyle settings style).outcome with
      | error error =>
          obtain ⟨hstate, houtcome⟩ := restyleAttributes_of_error hstyle hcompile sheet
          rw [hstate, houtcome, (restyleAttributes_of_error hstyle hcompile .empty).2]
          simp only [hcompile, Sheet.mergeAll_nil, and_self]
      | ok compiled =>
          obtain ⟨restyled, houtcome, -, hrules⟩ :=
            exists_outcome_restyle hcompile (Attributes.text? className attributes)
          obtain ⟨hstate, hresult⟩ := restyleAttributes_of_ok hstyle houtcome sheet
          rw [hstate, hresult, (restyleAttributes_of_ok hstyle houtcome .empty).2, hrules]
          simp only [hcompile, and_self]

theorem isRefused_iff (settings : Settings) (attributes : Attributes) (sheet : Sheet) :
    isRefused settings attributes ↔
      ∃ fault, (restyleAttributes settings attributes sheet).outcome = .error fault := by
  rw [isRefused, (restyleAttributes_sheet settings attributes sheet).2]
  cases (restyleAttributes settings attributes .empty).outcome <;> simp [Except.isOk, Except.toBool]

/-- Restyling elements merges their rules, up to those of the first one that fails. -/
theorem restyleEach_sheet (settings : Settings) (elements : List (Text × Attributes))
    (sheet : Sheet) :
    (restyleEach settings elements sheet).state.2 =
      sheet.mergeAll (rulesThrough settings elements) := by
  induction elements generalizing sheet with
  | nil => rfl
  | cons element rest ih =>
      obtain ⟨tag, attributes⟩ := element
      obtain ⟨hsheet, -⟩ := restyleAttributes_sheet settings attributes sheet
      have hrefused := isRefused_iff settings attributes sheet
      rw [restyleEach, rulesThrough]
      cases hfirst : (restyleAttributes settings attributes sheet).outcome with
      | error fault =>
          rw [hrefused.2 ⟨fault, hfirst⟩, if_pos rfl, List.append_nil]
          exact hsheet
      | ok done =>
          have hfine : ¬isRefused settings attributes := by
            rw [hrefused, hfirst]
            rintro ⟨fault, hfault⟩
            cases hfault
          rw [if_neg hfine, Sheet.mergeAll_append, ← hsheet]
          exact ih _

/-- Restyling a tree merges the rules of its elements, up to those of the first one that fails. -/
theorem restyleTree_sheet (settings : Settings) (node : Node) (sheet : Sheet) :
    (restyleTree settings node sheet).state.2 =
      sheet.mergeAll (rulesThrough settings node.elements) := by
  rw [sheet_restyleTree, restyleEach_sheet]

/-! ## Bodies -/

/-- The body of a compiled rule has a brace. -/
theorem Atom.brace_mem_body (atom : Atom) : '{' ∈ atom.body := by
  cases atom <;>
    simp [Atom.body, GeneratedRule.plainBody, GeneratedRule.atRuleBody, Style.printBlock]

theorem brace_mem_body_of_compileStyle {style : Text} {compiled : Compiled}
    (h : (compileStyle settings style).outcome = .ok compiled) {rule : GeneratedRule}
    (hrule : rule ∈ compiled.rules) : '{' ∈ rule.body := by
  rw [outcome_compileStyle] at h
  obtain ⟨items, -, rfl⟩ := Outcome.map_eq_ok_iff.1 h
  rw [Compiled.rules_ofItems] at hrule
  obtain ⟨atom, -, rfl⟩ := List.mem_map.1 hrule
  exact atom.brace_mem_body

theorem brace_mem_body_of_mem_rulesOf {rule : GeneratedRule} (h : rule ∈ rulesOf settings attributes) :
    '{' ∈ rule.body := by
  rw [rulesOf] at h
  split at h
  · cases h
  · split at h
    · cases h
    · exact brace_mem_body_of_compileStyle ‹_› h

theorem brace_mem_body_of_mem_rulesThrough {elements : List (Text × Attributes)}
    {rule : GeneratedRule} (h : rule ∈ rulesThrough settings elements) : '{' ∈ rule.body := by
  induction elements with
  | nil => cases h
  | cons element rest ih =>
      rw [rulesThrough] at h
      rcases List.mem_append.1 h with hhere | hrest
      · exact brace_mem_body_of_mem_rulesOf hhere
      · split_ifs at hrest
        · cases hrest
        · exact ih hrest

end AtomicCss
