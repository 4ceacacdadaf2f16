import AtomicCss.Pass.Basic
import AtomicCss.Proofs.Restyle.Classes
import AtomicCss.Proofs.Restyle.Detect
import AtomicCss.Proofs.Restyle.Traversal

/-! # Pages without inline styles

A page that mentions no style attribute is not read at all. Reading it would collect nothing, where
no style attribute stands right after a slash or a quote either: then no element of its tree has a
style with a value, and such a tree brings no rules. -/

namespace AtomicCss

open Markup

/-- Attributes among which there is no style with a value. -/
def IsUnstyled (attributes : Attributes) : Prop := ∀ value, (styleName, some value) ∉ attributes

/-- A style without a value is read as an empty one. -/
theorem IsUnstyled.text?_eq {attributes : Attributes} (h : IsUnstyled attributes) {style : Text}
    (hstyle : Attributes.text? styleName attributes = some style) : style = [] := by
  obtain ⟨value, hvalue, rfl⟩ := Option.map_eq_some_iff.1 hstyle
  cases value with
  | none => rfl
  | some value => exact absurd (OrderedMap.mem_of_get? hvalue) (h value)

/-- An empty style brings no rules. -/
theorem exists_outcome_restyle_nil (settings : Settings) (existing : Option Text) :
    ∃ restyled, (restyle settings [] existing).outcome = .ok restyled ∧ restyled.rules = [] :=
  ⟨_, rfl, rfl⟩

theorem sheet_restyleAttributes_of_isUnstyled {attributes : Attributes}
    (h : IsUnstyled attributes) (settings : Settings) (sheet : Sheet) :
    (restyleAttributes settings attributes sheet).state.2 = sheet := by
  rw [restyleAttributes]
  cases hstyle : Attributes.text? styleName attributes with
  | none => rfl
  | some style =>
      obtain rfl := h.text?_eq hstyle
      obtain ⟨restyled, houtcome, hrules⟩ :=
        exists_outcome_restyle_nil settings (Attributes.text? className attributes)
      dsimp only
      rw [houtcome]
      dsimp only
      rw [hrules, Sheet.mergeAll_nil]

theorem sheet_restyleEach_of_isUnstyled {elements : List (Text × Attributes)}
    (h : ∀ element ∈ elements, IsUnstyled element.2) (settings : Settings) (sheet : Sheet) :
    (restyleEach settings elements sheet).state.2 = sheet := by
  induction elements generalizing sheet with
  | nil => rfl
  | cons element rest ih =>
      obtain ⟨hhere, hrest⟩ := List.forall_mem_cons.1 h
      have hfirst := sheet_restyleAttributes_of_isUnstyled hhere settings sheet
      rw [restyleEach]
      dsimp only
      split
      · exact hfirst
      · exact (ih hrest _).trans hfirst

/-- A tree in which no element has a style with a value brings no rules. -/
theorem sheet_restyleTree_of_isUnstyled (settings : Settings) (node : Node) (sheet : Sheet)
    (h : ∀ element ∈ node.elements, IsUnstyled element.2) :
    (restyleTree settings node sheet).state.2 = sheet := by
  rw [sheet_restyleTree, sheet_restyleEach_of_isUnstyled h]

namespace Pass

/-- The tree that the styles of a page are collected from. -/
def readTree (page : Text) : Except Fault Node :=
  if isDocument page then (Document.read page).map Document.root else Fragment.read page

/-- The attributes of a page that have a value are mentioned in what is scanned of it. -/
theorem mentionsStyleAfter_of_readTree {page : Text} {root : Node} (h : readTree page = .ok root)
    {element : Text × Attributes} (helement : element ∈ root.elements) {value : Text}
    (hvalue : (styleName, some value) ∈ element.2) :
    mentionsStyleAfter partsAttributes page := by
  rw [readTree] at h
  split_ifs at h
  · obtain ⟨document, hread, rfl⟩ := Outcome.map_eq_ok_iff.1 h
    exact mentionsStyleAfter_of_mentionsAttribute
      (Document.areMentioned_of_read hread helement _ _ hvalue)
  · exact mentionsStyleAfter_of_wrapped (mentionsStyleAfter_of_mentionsAttribute
      (Fragment.areMentioned_of_read h helement _ _ hvalue))

/-- Whether a character is one after which an attribute may start without white space. -/
def isSlashOrQuote (c : Char) : Bool := c = '/' || c = '"' || c = '\''

theorem mentionsStyle_or_of_partsAttributes {page : Text}
    (h : mentionsStyleAfter partsAttributes page) :
    mentionsStyle page ∨ mentionsStyleAfter isSlashOrQuote page := by
  obtain ⟨c, rest, hsuffix, hc, hstart⟩ := mentionsStyleAfter_iff.1 h
  have hcases : isSpace c ∨ isSlashOrQuote c := by
    simpa [partsAttributes, isSlashOrQuote, or_assoc] using hc
  rcases hcases with hspace | hdirect
  · rw [mentionsStyle_eq]
    exact Or.inl (mentionsStyleAfter_iff.2 ⟨c, rest, hsuffix, isBlank_of_isSpace hspace, hstart⟩)
  · exact Or.inr (mentionsStyleAfter_iff.2 ⟨c, rest, hsuffix, hdirect, hstart⟩)

theorem isUnstyled_of_mem_elements {page : Text} (hmention : mentionsStyle page = false)
    (hdirect : mentionsStyleAfter isSlashOrQuote page = false) {root : Node}
    (hread : readTree page = .ok root) {element : Text × Attributes}
    (helement : element ∈ root.elements) : IsUnstyled element.2 := by
  intro value hvalue
  have hparts := mentionsStyleAfter_of_readTree hread helement hvalue
  rcases mentionsStyle_or_of_partsAttributes hparts with hfound | hfound
  · rw [hmention] at hfound
    cases hfound
  · rw [hdirect] at hfound
    cases hfound

/-- A page that mentions no style attribute, and in which none stands right after a slash or a
quote, is read as a tree without inline styles, from which nothing would be collected. -/
theorem isUnstyled_of_not_mentionsStyle {page : Text} (hmention : mentionsStyle page = false)
    (hdirect : mentionsStyleAfter isSlashOrQuote page = false) {root : Node}
    (hread : readTree page = .ok root) :
    (∀ element ∈ root.elements, IsUnstyled element.2) ∧
      ∀ settings sheet, (collectTree settings root sheet).state = sheet := by
  have hunstyled : ∀ element ∈ root.elements, IsUnstyled element.2 :=
    fun _ => isUnstyled_of_mem_elements hmention hdirect hread
  refine ⟨hunstyled, ?_⟩
  intro settings sheet
  exact sheet_restyleTree_of_isUnstyled settings root sheet hunstyled

/-- A page with other attributes, an attribute without a value, and the word in a text. -/
def plainPage : Text := "<p data-style=\"a\" style class='x'>style=\"b\"</p>".toList

/-- Its tree. -/
def plainTree : Node :=
  .element "div".toList [] [.element "p".toList [("data-style".toList, some ['a']),
    ("style".toList, none), ("class".toList, some ['x'])] [.text "style=\"b\"".toList]]

theorem plainPage_isUnstyled :
    mentionsStyle plainPage = false ∧ readTree plainPage = .ok plainTree ∧
      (∀ element ∈ plainTree.elements, IsUnstyled element.2) ∧
        ∀ settings sheet, (collectTree settings plainTree sheet).state = sheet := by
  have hmention : mentionsStyle plainPage = false := rfl
  have hread : readTree plainPage = .ok plainTree := rfl
  exact ⟨hmention, hread, isUnstyled_of_not_mentionsStyle hmention rfl hread⟩

/-- A page in which a style stands right after the quote of another attribute. -/
def adjacentPage : Text := "<p title=\"x\"style=\"color: red\">y</p>".toList

/-- Its tree. -/
def adjacentTree : Node :=
  .element "div".toList [] [.element "p".toList [("title".toList, some ['x']),
    (styleName, some "color: red".toList)] [.text ['y']]]

/-- White space is not needed before a style attribute: the page mentions none and has one, so that
a rule that could be collected from it is not. -/
theorem adjacentPage_not_mentionsStyle :
    mentionsStyle adjacentPage = false ∧ readTree adjacentPage = .ok adjacentTree ∧
      ¬(∀ element ∈ adjacentTree.elements, IsUnstyled element.2) ∧
      (collectPage .standard adjacentPage .empty).state ≠
        (collectTree .standard adjacentTree .empty).state := by
  refine ⟨rfl, rfl, ?_, by decide +kernel⟩
  intro h
  exact h ("p".toList, [("title".toList, some ['x']), (styleName, some "color: red".toList)])
    (by decide) "color: red".toList (by decide)

end Pass
end AtomicCss
