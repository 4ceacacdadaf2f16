import AtomicCss.Proofs.Markup.ReadBack
import AtomicCss.Proofs.Pass.Emptied
import AtomicCss.Proofs.Restyle.Plain

/-! # Pages that may be read twice

A page is rendered alike in one reading and in two if its document is plain: the document that is
written once its styles are collected is plain too, so that it is read as it was. What else it takes
are the two ways in which a page and its document can disagree about styles: a style right after a
slash or a quote is not mentioned, and a style that is mentioned may give no rule. -/

namespace AtomicCss

open Markup

theorem Sheet.isEmpty_mergeAll_empty_iff {rules : List GeneratedRule} :
    (empty.mergeAll rules).isEmpty ↔ rules = [] := by
  constructor
  · intro h
    apply List.eq_nil_iff_forall_not_mem.2
    intro rule hrule
    have hpair : rule ∈ (empty.mergeAll rules).pairs := mem_pairs_mergeAll.2 (Or.inr hrule)
    rw [isEmpty_iff.1 h] at hpair
    exact absurd hpair List.not_mem_nil
  · rintro rfl
    rfl

/-- A style without a value can be read. -/
theorem IsUnstyled.styleError?_eq_none {attributes : Attributes} (h : IsUnstyled attributes)
    (settings : Settings) : styleError? settings attributes = none := by
  rw [styleError?]
  cases hstyle : Attributes.text? styleName attributes with
  | none => rfl
  | some style =>
      obtain rfl := h.text?_eq hstyle
      rfl

/-- It brings no rules. -/
theorem IsUnstyled.rulesOf_eq_nil {attributes : Attributes} (h : IsUnstyled attributes)
    (settings : Settings) : rulesOf settings attributes = [] := by
  rw [rulesOf]
  cases hstyle : Attributes.text? styleName attributes with
  | none => rfl
  | some style =>
      obtain rfl := h.text?_eq hstyle
      rfl

namespace Pass

variable {settings : Settings} {page : Text} {document : Document} {typed : Bool}

/-- The rules of the styles of a document that can be read, in document order. -/
def documentRules (settings : Settings) (document : Document) : List GeneratedRule :=
  document.root.elements.flatMap fun element => rulesOf settings element.2

section

variable (hstem : isPlainStem settings.classStem) (hplain : document.IsPlain typed)
  (hread : Document.read page = .ok document)

include hstem hplain hread

/-- The styles of a plain document are collected if all of them can be read, and what is left of it
is plain. -/
theorem collectDocument_of_readable
    (h : ∀ element ∈ document.root.elements, styleError? settings element.2 = none)
    (sheet : Sheet) :
    ∃ collected, (collectDocument settings page sheet).outcome = .ok collected ∧
      collected.IsPlain typed ∧
      (collectDocument settings page sheet).state =
        sheet.mergeAll (documentRules settings document) := by
  have hvalues : ∀ element ∈ document.root.elements, HasXmlValues element.2 :=
    fun element helement => (hplain.tags element helement).hasXmlValues
  obtain ⟨houtcome, -, hstate⟩ :=
    collectTree_of_readable (isXmlText_of_isPlainStem hstem) hvalues h sheet
  rw [collectDocument, hread]
  dsimp only
  rw [Effect.outcome_andThen_of_ok houtcome, Effect.state_andThen_of_ok houtcome]
  exact ⟨_, rfl, hplain.restyleTree hstem sheet, hstate⟩

/-- They are not collected if one of them cannot be read. -/
theorem collectDocument_of_unreadable
    (h : ∃ element ∈ document.root.elements, styleError? settings element.2 ≠ none)
    (sheet : Sheet) :
    ∃ error, (collectDocument settings page sheet).outcome = .error (.style error) := by
  have hvalues : ∀ element ∈ document.root.elements, HasXmlValues element.2 :=
    fun element helement => (hplain.tags element helement).hasXmlValues
  obtain ⟨before, failing, after, error, hsplit, hbefore, herror⟩ := exists_first_styleError h
  obtain ⟨houtcome, -, -⟩ := collectTree_of_first_styleError (isXmlText_of_isPlainStem hstem)
    hvalues hsplit hbefore herror sheet
  rw [collectDocument, hread]
  dsimp only
  rw [Effect.outcome_andThen_of_error houtcome]
  exact ⟨error, rfl⟩

end

/-- A page with a plain document may be read twice exactly if it mentions a style where one cannot
be read, and else where one gives a rule. -/
theorem readsTwiceAlike_iff_of_isPlain (hstem : isPlainStem settings.classStem)
    (hread : Document.read page = .ok document)
    (hplain : document.IsPlain (startsWithDoctype page.trimStart)) :
    ReadsTwiceAlike settings page ↔
      ((∃ element ∈ document.root.elements, styleError? settings element.2 ≠ none) →
        mentionsStyle page) ∧
      ((∀ element ∈ document.root.elements, styleError? settings element.2 = none) →
        (mentionsStyle page ↔ documentRules settings document ≠ [])) := by
  by_cases hreadable : ∀ element ∈ document.root.elements, styleError? settings element.2 = none
  · obtain ⟨collected, houtcome, hleft, hstate⟩ :=
      collectDocument_of_readable hstem hplain hread hreadable .empty
    have hsheet : (collectDocument settings page .empty).state.isEmpty = false ↔
        documentRules settings document ≠ [] := by
      rw [hstate, ← Bool.not_eq_true, Sheet.isEmpty_mergeAll_empty_iff]
    constructor
    · intro h
      exact ⟨fun ⟨element, helement, herror⟩ => absurd (hreadable element helement) herror,
        fun _ => (h.mentionsStyle_iff collected houtcome).trans hsheet⟩
    · rintro ⟨-, hrules⟩
      constructor
      · intro fault hfault
        rw [houtcome] at hfault
        cases hfault
      · exact fun _ _ => (hrules hreadable).trans hsheet.symm
      · intro other written hother _ hprint
        rw [houtcome] at hother
        cases hother
        exact Document.read_of_print hleft hprint
  · -- collecting fails, which leaves only the first of the three conditions to be met
    have hunreadable : ∃ element ∈ document.root.elements,
        styleError? settings element.2 ≠ none := by simpa using hreadable
    obtain ⟨error, houtcome⟩ := collectDocument_of_unreadable hstem hplain hread hunreadable .empty
    constructor
    · intro h
      exact ⟨fun _ => h.mentionsStyle_of_fault _ houtcome, fun hall => absurd hall hreadable⟩
    · rintro ⟨hmention, -⟩
      constructor
      · exact fun _ _ => hmention hunreadable
      · intro collected hcollect
        rw [houtcome] at hcollect
        cases hcollect
      · intro collected written hcollect
        rw [houtcome] at hcollect
        cases hcollect

/-- Where no style stands right after a slash or a quote, a page with a plain document may be read
twice if its styles give a rule, or one of them cannot be read, or it mentions none. -/
theorem readsTwiceAlike_of_isPlain (hstem : isPlainStem settings.classStem)
    (hdocument : isDocument page) (hread : Document.read page = .ok document)
    (hplain : document.IsPlain (startsWithDoctype page.trimStart))
    (hdirect : mentionsStyleAfter isSlashOrQuote page = false)
    (hrules : (∀ element ∈ document.root.elements, styleError? settings element.2 = none) →
      mentionsStyle page → documentRules settings document ≠ []) :
    ReadsTwiceAlike settings page := by
  have htree : readTree page = .ok document.root := by
    rw [readTree, if_pos hdocument, hread]
    rfl
  have hunstyled (hmention : ¬mentionsStyle page) :
      ∀ element ∈ document.root.elements, IsUnstyled element.2 :=
    fun _ => isUnstyled_of_mem_elements (Bool.eq_false_iff.2 hmention) hdirect htree
  rw [readsTwiceAlike_iff_of_isPlain hstem hread hplain]
  constructor
  · rintro ⟨element, helement, herror⟩
    by_contra hmention
    exact herror ((hunstyled hmention element helement).styleError?_eq_none settings)
  · intro hreadable
    refine ⟨hrules hreadable, fun hne => ?_⟩
    by_contra hmention
    apply hne
    apply List.flatMap_eq_nil_iff.2
    intro element helement
    exact (hunstyled hmention element helement).rulesOf_eq_nil settings

/-- A page with an attribute of its own, a reference and a comment. -/
def commentedPage : Text :=
  "<html><body id=\"x\"><p style=\"color: red\">&amp;</p><!-- c --></body></html>".toList

/-- Its document. -/
def commentedDocument : Document :=
  ⟨.standard, .element htmlTag [] [.element bodyTag [("id".toList, some ['x'])]
    [.element paragraphTag [(styleName, some "color: red".toList)] [.text ['&']],
      .comment " c ".toList]]⟩

example : ReadsTwiceAlike .standard commentedPage := by
  have hread : Document.read commentedPage = .ok commentedDocument := by decide +kernel
  have hplain : commentedDocument.IsPlain (startsWithDoctype commentedPage.trimStart) := by
    decide +kernel
  have hrules : documentRules .standard commentedDocument ≠ [] := by decide +kernel
  exact readsTwiceAlike_of_isPlain rfl rfl hread hplain rfl fun _ _ => hrules

end Pass
end AtomicCss
