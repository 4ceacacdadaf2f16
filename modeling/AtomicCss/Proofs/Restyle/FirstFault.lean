import AtomicCss.Pass.Basic
import AtomicCss.Proofs.Restyle.Rules
import AtomicCss.Proofs.Restyle.XmlTexts

/-! # The first fault in a tree

The elements before the first one that cannot be restyled become what each of them becomes by itself,
and their rules are merged in document order. Where the texts of the tree are allowed there, the
first fault is that of the first style that cannot be read; its element, everything after it and the
rules of its style are left alone. -/

namespace AtomicCss

open Markup Style

variable {settings : Settings}

/-- An element as it is after it was restyled by itself. -/
def restyledElement (settings : Settings) (element : Text × Attributes) : Text × Attributes :=
  (element.1, (restyleAttributes settings element.2 .empty).state.1)

/-- What becomes of the attributes of an element does not depend on the sheet. -/
theorem attributes_restyleAttributes (settings : Settings) (attributes : Attributes)
    (sheet : Sheet) :
    (restyleAttributes settings attributes sheet).state.1 =
      (restyleAttributes settings attributes .empty).state.1 := by
  cases hstyle : Attributes.text? styleName attributes with
  | none => simp only [restyleAttributes, hstyle, Effect.ok]
  | some style =>
      cases hrestyle : (restyle settings style (Attributes.text? className attributes)).outcome with
      | error error => simp only [restyleAttributes, hstyle, hrestyle]
      | ok restyled =>
          rw [(restyleAttributes_of_ok hstyle hrestyle sheet).1,
            (restyleAttributes_of_ok hstyle hrestyle .empty).1]

theorem restyleElement_element (settings : Settings) (tag : Text) (attributes : Attributes)
    (children : List Node) (sheet : Sheet) :
    (restyleElement settings (.element tag attributes children) sheet).state.1 =
      .element tag (restyledElement settings (tag, attributes)).2 children := by
  simp only [restyleElement, attributes_restyleAttributes settings attributes sheet,
    restyledElement]

theorem restyledElement_of_unstyled {element : Text × Attributes}
    (h : Attributes.text? styleName element.2 = none) :
    restyledElement settings element = element := by
  simp only [restyledElement, restyleAttributes, h, Effect.ok]

/-- A style that cannot be read leaves its element as it is, and brings no rules. -/
theorem restyledElement_of_styleError {element : Text × Attributes} {error : StyleError}
    (h : styleError? settings element.2 = some error) :
    restyledElement settings element = element ∧ rulesOf settings element.2 = [] := by
  rw [styleError?] at h
  cases hstyle : Attributes.text? styleName element.2 with
  | none => simp [hstyle] at h
  | some style =>
      cases hparse : (parse settings.strict style).outcome with
      | ok items => simp [hstyle, hparse] at h
      | error error' =>
          have hcompile : (compileStyle settings style).outcome = .error error' := by
            rw [outcome_compileStyle, hparse]
            rfl
          rw [restyledElement, (restyleAttributes_of_error hstyle hcompile .empty).1, rulesOf, hstyle]
          simp only [hcompile, and_self]

/-! ## One element after the other -/

/-- Elements none of which fails are all restyled, and all their rules are merged. -/
theorem restyleEach_of_ok {elements : List (Text × Attributes)}
    (h : ∀ element ∈ elements, (restyleAttributes settings element.2 .empty).outcome = .ok ())
    (sheet : Sheet) :
    (restyleEach settings elements sheet).state =
        (elements.map (restyledElement settings),
          sheet.mergeAll (elements.flatMap fun element => rulesOf settings element.2)) ∧
      (restyleEach settings elements sheet).outcome = .ok () := by
  induction elements generalizing sheet with
  | nil => exact ⟨rfl, rfl⟩
  | cons element rest ih =>
      obtain ⟨hhere, hrest⟩ := List.forall_mem_cons.1 h
      obtain ⟨hsheet, houtcome⟩ := restyleAttributes_sheet settings element.2 sheet
      obtain ⟨hstate, hok⟩ := ih hrest (sheet.mergeAll (rulesOf settings element.2))
      rw [restyleEach, houtcome.trans hhere]
      simp only [hsheet, hstate, hok, attributes_restyleAttributes settings element.2 sheet,
        restyledElement, List.map_cons, List.flatMap_cons, Sheet.mergeAll_append, and_self]

/-- After the first element that fails nothing more happens. -/
theorem restyleEach_of_error {before : List (Text × Attributes)}
    (hbefore : ∀ element ∈ before,
      (restyleAttributes settings element.2 .empty).outcome = .ok ())
    {failing : Text × Attributes} {fault : Fault}
    (hfailing : (restyleAttributes settings failing.2 .empty).outcome = .error fault)
    (after : List (Text × Attributes)) (sheet : Sheet) :
    (restyleEach settings (before ++ failing :: after) sheet).state =
        (before.map (restyledElement settings) ++ restyledElement settings failing :: after,
          (sheet.mergeAll (before.flatMap fun element => rulesOf settings element.2)).mergeAll
            (rulesOf settings failing.2)) ∧
      (restyleEach settings (before ++ failing :: after) sheet).outcome = .error fault := by
  obtain ⟨hstate, hok⟩ := restyleEach_of_ok hbefore sheet
  rw [restyleEach_append_of_ok hok, hstate]
  generalize sheet.mergeAll (before.flatMap fun element => rulesOf settings element.2) = reached
  obtain ⟨hsheet, houtcome⟩ := restyleAttributes_sheet settings failing.2 reached
  rw [restyleEach, houtcome.trans hfailing]
  simp only [hsheet, attributes_restyleAttributes settings failing.2 reached, restyledElement,
    and_self]

/-! ## Trees -/

variable {root : Node}

/-- Collecting the styles of a tree restyles its elements one after the other. -/
theorem collectTree_eq (settings : Settings) (root : Node) (sheet : Sheet) :
    ((restyleTree settings root sheet).state.1.elements,
        (Pass.collectTree settings root sheet).state) =
      (restyleEach settings root.elements sheet).state ∧
    (Pass.collectTree settings root sheet).outcome =
      (restyleEach settings root.elements sheet).outcome.map
        fun () => (restyleTree settings root sheet).state.1 := by
  rw [← elementsLeft_restyleTree settings root sheet]
  exact ⟨rfl, rfl⟩

theorem collectTree_of_ok
    (h : ∀ element ∈ root.elements,
      (restyleAttributes settings element.2 .empty).outcome = .ok ()) (sheet : Sheet) :
    (Pass.collectTree settings root sheet).outcome =
        .ok (restyleTree settings root sheet).state.1 ∧
      (restyleTree settings root sheet).state.1.elements =
        root.elements.map (restyledElement settings) ∧
      (Pass.collectTree settings root sheet).state =
        sheet.mergeAll (root.elements.flatMap fun element => rulesOf settings element.2) := by
  obtain ⟨hleft, houtcome⟩ := collectTree_eq settings root sheet
  obtain ⟨hstate, hok⟩ := restyleEach_of_ok h sheet
  rw [hok] at houtcome
  rw [hstate] at hleft
  exact ⟨houtcome, Prod.mk.inj hleft⟩

theorem collectTree_of_error {before after : List (Text × Attributes)} {failing : Text × Attributes}
    {fault : Fault} (hsplit : root.elements = before ++ failing :: after)
    (hbefore : ∀ element ∈ before,
      (restyleAttributes settings element.2 .empty).outcome = .ok ())
    (hfailing : (restyleAttributes settings failing.2 .empty).outcome = .error fault)
    (sheet : Sheet) :
    (Pass.collectTree settings root sheet).outcome = .error fault ∧
      (restyleTree settings root sheet).state.1.elements =
        before.map (restyledElement settings) ++ restyledElement settings failing :: after ∧
      (Pass.collectTree settings root sheet).state =
        (sheet.mergeAll (before.flatMap fun element => rulesOf settings element.2)).mergeAll
          (rulesOf settings failing.2) := by
  obtain ⟨hleft, houtcome⟩ := collectTree_eq settings root sheet
  obtain ⟨hstate, hstopped⟩ := restyleEach_of_error hbefore hfailing after sheet
  rw [hsplit, hstopped] at houtcome
  rw [hsplit, hstate] at hleft
  exact ⟨houtcome, Prod.mk.inj hleft⟩

/-- The first element with a style that cannot be read, if there is one. -/
theorem exists_first_styleError {elements : List (Text × Attributes)}
    (h : ∃ element ∈ elements, styleError? settings element.2 ≠ none) :
    ∃ before failing after error, elements = before ++ failing :: after ∧
      (∀ element ∈ before, styleError? settings element.2 = none) ∧
      styleError? settings failing.2 = some error := by
  obtain ⟨element, helement, hne⟩ := h
  have hfound : (elements.find? fun element =>
      (styleError? settings element.2).isSome).isSome :=
    List.find?_isSome.2 ⟨element, helement, Option.isSome_iff_ne_none.2 hne⟩
  obtain ⟨failing, hfind⟩ := Option.isSome_iff_exists.1 hfound
  obtain ⟨hfails, before, after, hsplit, hbefore⟩ := List.find?_eq_some_iff_append.1 hfind
  obtain ⟨error, herror⟩ := Option.isSome_iff_exists.1 hfails
  exact ⟨before, failing, after, error, hsplit, by simpa using hbefore, herror⟩

section

variable (hstem : isXmlText settings.classStem)
  (hvalues : ∀ element ∈ root.elements, HasXmlValues element.2)

include hstem hvalues

/-- Allowed texts and styles that can be read are all that restyling an element takes. -/
theorem outcome_of_styleError?_eq_none {element : Text × Attributes} (hmem : element ∈ root.elements)
    (h : styleError? settings element.2 = none) :
    (restyleAttributes settings element.2 .empty).outcome = .ok () := by
  rw [outcome_restyleAttributes hstem (hvalues element hmem), h]

theorem collectTree_of_readable (h : ∀ element ∈ root.elements, styleError? settings element.2 = none)
    (sheet : Sheet) :
    (Pass.collectTree settings root sheet).outcome =
        .ok (restyleTree settings root sheet).state.1 ∧
      (restyleTree settings root sheet).state.1.elements =
        root.elements.map (restyledElement settings) ∧
      (Pass.collectTree settings root sheet).state =
        sheet.mergeAll (root.elements.flatMap fun element => rulesOf settings element.2) :=
  collectTree_of_ok (fun element hmem =>
    outcome_of_styleError?_eq_none hstem hvalues hmem (h element hmem)) sheet

/-- The first style that cannot be read ends collecting: its element stays as it is, and so do those
after it. -/
theorem collectTree_of_first_styleError {before after : List (Text × Attributes)}
    {failing : Text × Attributes} {error : StyleError}
    (hsplit : root.elements = before ++ failing :: after)
    (hbefore : ∀ element ∈ before, styleError? settings element.2 = none)
    (herror : styleError? settings failing.2 = some error) (sheet : Sheet) :
    (Pass.collectTree settings root sheet).outcome = .error (.style error) ∧
      (restyleTree settings root sheet).state.1.elements =
        before.map (restyledElement settings) ++ failing :: after ∧
      (Pass.collectTree settings root sheet).state =
        sheet.mergeAll (before.flatMap fun element => rulesOf settings element.2) := by
  have hfault : (restyleAttributes settings failing.2 .empty).outcome = .error (.style error) := by
    rw [outcome_restyleAttributes hstem (hvalues failing (by simp [hsplit])), herror]
  have hearlier : ∀ element ∈ before,
      (restyleAttributes settings element.2 .empty).outcome = .ok () := by
    intro element hmem
    exact outcome_of_styleError?_eq_none hstem hvalues (by simp [hsplit, hmem])
      (hbefore element hmem)
  obtain ⟨hsame, hrules⟩ := restyledElement_of_styleError herror
  have hstopped := collectTree_of_error hsplit hearlier hfault sheet
  rwa [hsame, hrules, Sheet.mergeAll_nil] at hstopped

end

/-- Restyling a tree whose texts are allowed there fails exactly if a style cannot be read. Up to
the first such style every element becomes what it becomes by itself, and its rules are merged; the
fault is that of the style, whose element and all that is after it stay as they are. -/
theorem collectTree_upTo_styleError (hstem : isXmlText settings.classStem)
    (hvalues : ∀ element ∈ root.elements, HasXmlValues element.2) (sheet : Sheet) :
    let left := (restyleTree settings root sheet).state.1
    let collected := Pass.collectTree settings root sheet
    left.skeleton = root.skeleton ∧
    (∀ tag attributes children sheet,
      (restyleElement settings (.element tag attributes children) sheet).state.1 =
        .element tag (restyledElement settings (tag, attributes)).2 children) ∧
    (∀ element ∈ root.elements, Attributes.text? styleName element.2 = none →
      restyledElement settings element = element) ∧
    ((∃ error, collected.outcome = .error (.style error)) ↔
      ∃ element ∈ root.elements, styleError? settings element.2 ≠ none) ∧
    ((∀ element ∈ root.elements, styleError? settings element.2 = none) →
      collected.outcome = .ok left ∧
      left.elements = root.elements.map (restyledElement settings) ∧
      collected.state =
        sheet.mergeAll (root.elements.flatMap fun element => rulesOf settings element.2)) ∧
    ∀ before failing after error, root.elements = before ++ failing :: after →
      (∀ element ∈ before, styleError? settings element.2 = none) →
      styleError? settings failing.2 = some error →
        collected.outcome = .error (.style error) ∧
        left.elements = before.map (restyledElement settings) ++ failing :: after ∧
        collected.state =
          sheet.mergeAll (before.flatMap fun element => rulesOf settings element.2) := by
  intro left collected
  have hall (h : ∀ element ∈ root.elements, styleError? settings element.2 = none) :=
    collectTree_of_readable hstem hvalues h sheet
  have hfirst {before failing after error} (hsplit : root.elements = before ++ failing :: after)
      (hbefore : ∀ element ∈ before, styleError? settings element.2 = none)
      (herror : styleError? settings failing.2 = some error) :=
    collectTree_of_first_styleError hstem hvalues hsplit hbefore herror sheet
  refine ⟨skeleton_restyleTree settings root sheet, restyleElement_element settings,
    fun element _ hunstyled => restyledElement_of_unstyled hunstyled, ⟨?_, ?_⟩, hall,
    fun _ _ _ _ => hfirst⟩
  · rintro ⟨error, herror⟩
    by_contra hnone
    have hnone : ∀ element ∈ root.elements, styleError? settings element.2 = none := by
      simpa using hnone
    rw [(hall hnone).1] at herror
    cases herror
  · intro hexists
    obtain ⟨before, failing, after, error, hsplit, hbefore, herror⟩ :=
      exists_first_styleError hexists
    exact ⟨error, (hfirst hsplit hbefore herror).1⟩

/-- A list of two items, with a brace in the style of the first item that nothing has opened. -/
def brokenList : Node :=
  .element "ul".toList [(styleName, some "color: red".toList)]
    [.element itemTag [(styleName, some "margin: 0 \x7d".toList)] [.text ['x']],
      .element itemTag [(styleName, some "color: blue".toList)] []]

/-- Only the list itself is restyled. -/
theorem brokenList_restyled_upTo_item :
    isXmlText Settings.standard.classStem ∧
      (∀ element ∈ brokenList.elements, HasXmlValues element.2) ∧
      (Pass.collectTree .standard brokenList .empty).outcome =
        .error (.style ⟨.unmatchedClose, 10, "margin: 0 \x7d".toList⟩) ∧
      (restyleTree .standard brokenList .empty).state.1.elements =
        [("ul".toList, [(className, some "hw_CTY41".toList)]),
          (itemTag, [(styleName, some "margin: 0 \x7d".toList)]),
          (itemTag, [(styleName, some "color: blue".toList)])] ∧
      (Pass.collectTree .standard brokenList .empty).state =
        Sheet.empty.merge ⟨placeholder ++ " \x7b color: red \x7d".toList, ".hw_CTY41".toList⟩ := by
  have hstem : isXmlText Settings.standard.classStem := by decide
  have hvalues : ∀ element ∈ brokenList.elements, HasXmlValues element.2 := by decide
  obtain ⟨-, -, -, -, -, hstops⟩ := collectTree_upTo_styleError hstem hvalues .empty
  obtain ⟨houtcome, helements, hsheet⟩ :=
    hstops [("ul".toList, [(styleName, some "color: red".toList)])] _ _ _ rfl (by decide) rfl
  refine ⟨hstem, hvalues, houtcome, helements.trans ?_, hsheet.trans ?_⟩
  · decide +kernel
  · decide +kernel

end AtomicCss
