import AtomicCss.Proofs.Restyle.Run
import AtomicCss.Proofs.Sheet.Order
import AtomicCss.Proofs.Sheet.Permuted

/-! # Elements in another order

Attribute mappings are restyled one after the other into one sheet. What becomes of a mapping depends
neither on the sheet nor on the other mappings, and what the sheet holds in the end depends on their
order only by the order of its entries and selectors. -/

namespace AtomicCss

open Style

/-- An element by the mapping of its attributes, and its tag if it is known. -/
structure MappedElement where
  tag : Option Text
  attributes : OrderedMap Value

namespace MappedElement

/-- The element as what a call restyles. -/
def subject (element : MappedElement) : Subject := .mapping element.tag element.attributes

/-- What restyling an element by itself gives: the notices, and the mapping after it or a failure. -/
def restyled (settings : Settings) (element : MappedElement) :
    Logged StyleError (OrderedMap Value) :=
  (restyleMapping settings element.tag element.attributes .empty).map Prod.fst

/-- The rules of the style of an element, none if it has no style that can be read. -/
def rules (settings : Settings) (element : MappedElement) : List GeneratedRule :=
  element.subject.style?.elim [] (compiledRules settings)

/-- The style of an element can be read, if it has one. -/
def IsReadable (settings : Settings) (element : MappedElement) : Prop :=
  ∀ style, element.subject.style? = some style →
    ∃ items, (parse settings.strict style).outcome = .ok items

end MappedElement

/-- Restyles elements one after the other into one sheet, up to the first failure: what each of them
gives, and the sheet. -/
def restyleMappings (settings : Settings) :
    List MappedElement → Sheet → List (Logged StyleError (OrderedMap Value)) × Sheet
  | [], sheet => ([], sheet)
  | element :: rest, sheet =>
      let done := restyleMapping settings element.tag element.attributes sheet
      match done.outcome with
      | .error error => ([⟨done.notices, .error error⟩], sheet)
      | .ok (attributes, next) =>
          let others := restyleMappings settings rest next
          (⟨done.notices, .ok attributes⟩ :: others.1, others.2)

variable {settings : Settings} {element : MappedElement}

/-! ## One element -/

theorem rules_of_outcome_restyle {style : Text} {existing : Option Text} {restyled : Restyled}
    (h : (restyle settings style existing).outcome = .ok restyled) :
    restyled.rules = compiledRules settings style := by
  obtain ⟨items, hparse, rfl⟩ := outcome_restyle_eq_ok_iff.1 h
  exact (compiledRules_of_parse hparse).symm

/-- Restyling an element does the same with every sheet, and merges the rules of its style. -/
theorem restyleMapping_eq_restyled (settings : Settings) (element : MappedElement)
    (sheet : Sheet) :
    restyleMapping settings element.tag element.attributes sheet =
      (element.restyled settings).map fun attributes =>
        (attributes, sheet.mergeAll (element.rules settings)) := by
  rw [MappedElement.restyled, MappedElement.rules, MappedElement.subject, Subject.style?,
    restyleMapping, restyleMapping]
  cases StyleValue.ofValue? (OrderedMap.get? styleName element.attributes) with
  | absent => rfl
  | other value => rfl
  | text style =>
      cases classText? element.attributes with
      | error value => rfl
      | ok existing =>
          simp only [Option.elim_some, Logged.map_map]
          cases hrestyle : (restyle settings style existing).outcome with
          | error error => simp only [Logged.map, hrestyle, Except.map]
          | ok restyled =>
              simp only [Logged.map, hrestyle, Except.map, rules_of_outcome_restyle hrestyle]

/-- An element whose style can be read is restyled. -/
theorem MappedElement.IsReadable.exists_outcome (h : element.IsReadable settings) :
    ∃ attributes, (element.restyled settings).outcome = .ok attributes := by
  obtain ⟨tag, attributes⟩ := element
  rw [MappedElement.restyled, Logged.outcome_map]
  cases hstyle : (Subject.mapping tag attributes).style? with
  | none =>
      rw [outcome_restyleMapping_of_style?_eq_none hstyle]
      exact ⟨attributes, rfl⟩
  | some style =>
      obtain ⟨items, hparse⟩ := h style hstyle
      rw [outcome_restyleMapping hstyle, outcome_restyle, hparse]
      exact ⟨_, rfl⟩

/-! ## Runs -/

/-- A run in which each style can be read gives what the elements give by themselves, and merges
their rules in order. -/
theorem restyleMappings_eq {elements : List MappedElement}
    (h : ∀ element ∈ elements, element.IsReadable settings) (sheet : Sheet) :
    restyleMappings settings elements sheet =
      (elements.map (MappedElement.restyled settings),
        sheet.mergeAll (elements.flatMap (MappedElement.rules settings))) := by
  induction elements generalizing sheet with
  | nil => rfl
  | cons element rest ih =>
      obtain ⟨helement, hrest⟩ := List.forall_mem_cons.1 h
      obtain ⟨attributes, houtcome⟩ := helement.exists_outcome
      have hrestyled : element.restyled settings =
          ⟨(element.restyled settings).notices, .ok attributes⟩ := by rw [← houtcome]
      rw [restyleMappings, restyleMapping_eq_restyled, hrestyled]
      simp only [Logged.map, Except.map, ih hrest, List.map_cons, List.flatMap_cons,
        Sheet.mergeAll_append, ← hrestyled]

/-- Elements whose styles can be read are restyled alike in any order and with any sheet: each of
them gives the mapping and the notices that it gives by itself, and does not fail. Two orders that
start with the same sheet end with the same bodies and the same selectors for each body. -/
theorem restyleMappings_perm {elements others : List MappedElement} (hperm : elements.Perm others)
    (hread : ∀ element ∈ elements, element.IsReadable settings) :
    (∀ element ∈ elements, ∃ attributes,
      (element.restyled settings).outcome = .ok attributes) ∧
    (∀ sheet, (restyleMappings settings elements sheet).1 =
      elements.map (MappedElement.restyled settings)) ∧
    (∀ sheet, (restyleMappings settings others sheet).1 =
      others.map (MappedElement.restyled settings)) ∧
    ∀ sheet, (restyleMappings settings elements sheet).2.SameRules
      (restyleMappings settings others sheet).2 := by
  have hothers : ∀ element ∈ others, element.IsReadable settings :=
    fun element helement => hread element (hperm.mem_iff.2 helement)
  refine ⟨fun element helement => (hread element helement).exists_outcome, ?_, ?_, ?_⟩
  · intro sheet
    rw [restyleMappings_eq hread]
  · intro sheet
    rw [restyleMappings_eq hothers]
  · intro sheet
    rw [restyleMappings_eq hread, restyleMappings_eq hothers]
    exact Sheet.sameRules_mergeAll_of_perm (hperm.flatMap_right _) sheet

/-- Two elements whose rules have the same body, one that also has a malformed declaration, and one
whose style is no text. -/
def mixedElements : List MappedElement :=
  [⟨none, [(styleName, .text "color: red; x".toList)]⟩,
    ⟨none, [(styleName, .text ":hover \x7b color: red \x7d".toList), (className, .text ['a'])]⟩,
    ⟨some ['p'], [(styleName, .integer 1)]⟩,
    ⟨none, [(styleName, .text "color: red".toList)]⟩]

/-- The other way round they leave another sheet, with the same rules. -/
theorem mixedElements_reversed :
    (∀ element ∈ mixedElements, element.IsReadable .standard) ∧
      (restyleMappings .standard mixedElements.reverse .empty).1 =
        mixedElements.reverse.map (MappedElement.restyled .standard) ∧
      (restyleMappings .standard mixedElements .empty).2 ≠
        (restyleMappings .standard mixedElements.reverse .empty).2 ∧
      (restyleMappings .standard mixedElements .empty).2.SameRules
        (restyleMappings .standard mixedElements.reverse .empty).2 := by
  have hperm : mixedElements.Perm mixedElements.reverse := (List.reverse_perm _).symm
  have hread : ∀ element ∈ mixedElements, element.IsReadable .standard := by
    simp only [mixedElements, List.forall_mem_cons]
    refine ⟨?_, ?_, ?_, ?_, List.forall_mem_nil _⟩
    · rintro style ⟨⟩
      exact ⟨_, rfl⟩
    · rintro style ⟨⟩
      exact ⟨_, rfl⟩
    · intro style hstyle
      cases hstyle
    · rintro style ⟨⟩
      exact ⟨_, rfl⟩
  obtain ⟨-, -, hresults, hsheets⟩ := restyleMappings_perm hperm hread
  exact ⟨hread, hresults .empty, by decide +kernel, hsheets .empty⟩

end AtomicCss
