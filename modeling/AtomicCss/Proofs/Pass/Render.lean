import AtomicCss.Proofs.Markup.Written
import AtomicCss.Proofs.Pass.Unmentioned

/-! # Rendering in one reading and in two

A page can be rendered by collecting its styles and then embedding the sheet in the page that this
gives. For a document that is two readings, where `render` makes do with one. Both give the same
where the document that is written in between is read as it was, and where there is a style in the
page exactly if there is a rule to embed; a document whose styles give no rule they treat
differently. -/

namespace AtomicCss

open Markup

namespace Effect

variable {σ α β γ : Type}

theorem andThen_assoc (x : Effect σ α) (f : α → σ → Effect σ β) (g : β → σ → Effect σ γ) :
    (x.andThen f).andThen g = x.andThen fun a state => (f a state).andThen g := by
  obtain ⟨state, notices, _ | a⟩ := x
  · rfl
  · simp only [andThen]
    rcases (f a state).outcome with fault | b
    · rfl
    · simp only [List.append_assoc]

theorem outcome_andThen_of_error {x : Effect σ α} {fault : Fault} (h : x.outcome = .error fault)
    (f : α → σ → Effect σ β) : (x.andThen f).outcome = .error fault := by
  rw [andThen, h]

theorem outcome_andThen_of_ok {x : Effect σ α} {a : α} (h : x.outcome = .ok a)
    (f : α → σ → Effect σ β) : (x.andThen f).outcome = (f a x.state).outcome := by
  rw [andThen, h]

end Effect

/-! ## Elements that stay elements -/

theorem isElement_restyleTree (settings : Settings) (node : Node) (sheet : Sheet) :
    (restyleTree settings node sheet).state.1.isElement = node.isElement ∧
      (restyleTree settings node sheet).state.1.tag = node.tag := by
  have hskeleton := skeleton_restyleTree settings node sheet
  constructor
  · rw [← Node.isElement_skeleton, hskeleton, Node.isElement_skeleton]
  · rw [← Node.tag_skeleton, hskeleton, Node.tag_skeleton]

namespace Pass

theorem tag_insertStyle (style root : Node) : (insertStyle style root).tag = root.tag := by
  cases root with
  | text content => rfl
  | comment content => rfl
  | instruction target content => rfl
  | element tag attributes children =>
      rw [insertStyle]
      split <;> rfl

/-- Embedding in an element keeps its tag, and fails only because of a text. -/
theorem outcome_embedTree (settings : Settings) {root : Node} (h : root.isElement) (sheet : Sheet) :
    (embedTree settings root sheet).outcome = .error .notXmlText ∨
      ∃ embedded, (embedTree settings root sheet).outcome = .ok embedded ∧
        embedded.tag = root.tag := by
  have hflush : (flush sheet).outcome = .ok sheet.print := rfl
  rw [embedTree, Effect.outcome_andThen_of_ok hflush, h]
  simp only [Bool.not_true, Bool.false_eq_true, if_false]
  split_ifs
  · exact Or.inr ⟨root, rfl, rfl⟩
  · cases hstyle : styleElement settings sheet.print with
    | ok style => exact Or.inr ⟨_, rfl, tag_insertStyle style root⟩
    | error fault =>
        rw [styleElement] at hstyle
        split_ifs at hstyle
        cases hstyle
        exact Or.inl rfl

/-! ## Two phases -/

/-- Collects the styles of a page and embeds them in the page that this gives. -/
def collectThenEmbed (settings : Settings) (page : Text) (sheet : Sheet) : Effect Sheet Text :=
  (collectPage settings page sheet).andThen (embedPage settings)

/-- Reads a page as a document and collects its styles. -/
def collectDocument (settings : Settings) (page : Text) (sheet : Sheet) : Effect Sheet Document :=
  match Document.read page with
  | .error fault => .fail sheet fault
  | .ok document =>
      (collectTree settings document.root sheet).andThen fun root sheet =>
        .ok sheet { document with root := root }

/-- Embeds the sheet in a document and writes it as the one that was read from `page`. -/
def embedDocument (settings : Settings) (page : Text) (document : Document) (sheet : Sheet) :
    Effect Sheet Text :=
  (embedTree settings document.root sheet).andThen fun root sheet =>
    ⟨sheet, [], Document.print page { document with root := root }⟩

variable {settings : Settings} {page : Text} {sheet : Sheet}

theorem renderDocument_eq :
    renderDocument settings page sheet =
      (collectDocument settings page sheet).andThen fun document sheet =>
        if sheet.isEmpty then .ok sheet page else embedDocument settings page document sheet := by
  rw [renderDocument, collectDocument]
  cases Document.read page with
  | error fault => rfl
  | ok document =>
      dsimp only
      rw [Effect.andThen_assoc]
      rfl

theorem collectPage_of_isDocument (hmention : mentionsStyle page) (hdocument : isDocument page) :
    collectPage settings page sheet =
      (collectDocument settings page sheet).andThen fun document sheet =>
        ⟨sheet, [], Document.print page document⟩ := by
  rw [collectPage, hmention, if_neg (by decide), if_pos hdocument, onDocument, collectDocument]
  cases Document.read page with
  | error fault => rfl
  | ok document =>
      dsimp only
      rw [Effect.andThen_assoc]
      rfl

theorem embedPage_of_isDocument (hsheet : sheet.isEmpty = false) (hdocument : isDocument page)
    {document : Document} (hread : Document.read page = .ok document) :
    embedPage settings page sheet = embedDocument settings page document sheet := by
  rw [embedPage, hsheet, if_neg (by decide), if_pos hdocument, onDocument, hread]
  rfl

/-- The root of a document stays an `html` element. -/
theorem tag_root_of_collectDocument {document : Document}
    (h : (collectDocument settings page sheet).outcome = .ok document) :
    document.root.isElement ∧ document.root.tag = htmlTag := by
  rw [collectDocument] at h
  cases hread : Document.read page with
  | error fault =>
      rw [hread] at h
      cases h
  | ok read =>
      obtain ⟨helement, htag⟩ := Document.tag_root_of_read hread
      obtain ⟨helement', htag'⟩ := isElement_restyleTree settings read.root sheet
      rw [hread] at h
      dsimp only at h
      cases hcollect : (collectTree settings read.root sheet).outcome with
      | error fault =>
          rw [Effect.outcome_andThen_of_error hcollect] at h
          cases h
      | ok root =>
          rw [Effect.outcome_andThen_of_ok hcollect] at h
          rw [← Except.ok.inj h]
          obtain ⟨_, -, rfl⟩ := Outcome.map_eq_ok_iff.1 hcollect
          exact ⟨helement'.trans helement, htag'.trans htag⟩

/-- Embedding in a document that was written and is read as it was gives what embedding in the
document itself gives. -/
theorem outcome_embed_written {document : Document} (helement : document.root.isElement)
    (htag : document.root.tag = htmlTag) (hsheet : sheet.isEmpty = false)
    (hback : ∀ written, Document.print page document = .ok written →
      Document.read written = .ok document) :
    ((⟨sheet, [], Document.print page document⟩ : Effect Sheet Text).andThen
        (embedPage settings)).outcome = (embedDocument settings page document sheet).outcome := by
  cases hprint : Document.print page document with
  | error fault =>
      -- the document type cannot be written, whatever is embedded below the root
      rw [Effect.outcome_andThen_of_error rfl, embedDocument]
      rcases outcome_embedTree settings helement sheet with hembed | ⟨root, hembed, hroot⟩
      · rw [Effect.outcome_andThen_of_error hembed, (Document.print_of_error hprint rfl).1]
      · obtain ⟨hfault, hagain⟩ := Document.print_of_error hprint hroot
        rw [Effect.outcome_andThen_of_ok hembed, hfault]
        exact hagain.symm
  | ok written =>
      obtain ⟨hdocument, htyped⟩ := Document.isDocument_of_print helement htag hprint
      have hsame (other : Document) : Document.print written other = Document.print page other :=
        Document.print_congr htyped other
      rw [Effect.outcome_andThen_of_ok rfl,
        embedPage_of_isDocument hsheet hdocument (hback written hprint)]
      simp only [embedDocument, hsame]

/-- A page for which reading it twice makes no difference: if it is a document, it mentions a style
exactly if there is a fault or a rule to find, and once its styles are collected it can be written
and read again. -/
structure ReadsTwiceAlike (settings : Settings) (page : Text) : Prop where
  mentionsStyle_of_fault : ∀ fault,
    (collectDocument settings page .empty).outcome = .error fault → mentionsStyle page
  mentionsStyle_iff : ∀ document, (collectDocument settings page .empty).outcome = .ok document →
    (mentionsStyle page ↔ (collectDocument settings page .empty).state.isEmpty = false)
  readsBack : ∀ document written, (collectDocument settings page .empty).outcome = .ok document →
    mentionsStyle page → Document.print page document = .ok written →
      Document.read written = .ok document

/-- Rendering a page has the outcome of collecting its styles and embedding them in what that gives,
for every fragment and for every document that may be read twice. -/
theorem outcome_render_eq (h : isDocument page → ReadsTwiceAlike settings page) :
    (render settings page .empty).outcome = (collectThenEmbed settings page .empty).outcome := by
  rw [render]
  split_ifs with hdocument
  · obtain ⟨hfault, hiff, hback⟩ := h hdocument
    rw [renderDocument_eq, collectThenEmbed]
    by_cases hmention : mentionsStyle page
    · rw [collectPage_of_isDocument hmention hdocument, Effect.andThen_assoc]
      cases hcollect : (collectDocument settings page .empty).outcome with
      | error fault =>
          rw [Effect.outcome_andThen_of_error hcollect, Effect.outcome_andThen_of_error hcollect]
      | ok document =>
          obtain ⟨helement, htag⟩ := tag_root_of_collectDocument hcollect
          have hsheet := (hiff document hcollect).1 hmention
          rw [Effect.outcome_andThen_of_ok hcollect, Effect.outcome_andThen_of_ok hcollect, hsheet,
            if_neg (by decide)]
          exact (outcome_embed_written helement htag hsheet fun written =>
            hback document written hcollect hmention).symm
    · -- a page without a style is not read when it is collected; read, it gives nothing to embed
      have hskip : collectPage settings page .empty = .ok .empty page := by
        have hnone : mentionsStyle page = false := Bool.eq_false_iff.2 hmention
        rw [collectPage, hnone]
        rfl
      cases hcollect : (collectDocument settings page .empty).outcome with
      | error fault => exact absurd (hfault fault hcollect) hmention
      | ok document =>
          have hsheet : (collectDocument settings page .empty).state.isEmpty := by
            rw [← Bool.not_eq_false]
            exact fun hempty => hmention ((hiff document hcollect).2 hempty)
          rw [Effect.outcome_andThen_of_ok hcollect, hsheet, hskip]
          rfl
  · rfl

/-- A document whose styles give no rule is rendered as it is, with these styles in it, where
collecting takes them out. -/
theorem outcome_render_of_no_rules (hdocument : isDocument page) (hmention : mentionsStyle page)
    {document : Document} (hcollect : (collectDocument settings page .empty).outcome = .ok document)
    (hsheet : (collectDocument settings page .empty).state.isEmpty) :
    (render settings page .empty).outcome = .ok page ∧
      (collectThenEmbed settings page .empty).outcome = Document.print page document := by
  constructor
  · rw [render, if_pos hdocument, renderDocument_eq, Effect.outcome_andThen_of_ok hcollect, hsheet]
    rfl
  · rw [collectThenEmbed, collectPage_of_isDocument hmention hdocument, Effect.andThen_assoc,
      Effect.outcome_andThen_of_ok hcollect]
    cases hprint : Document.print page document with
    | error fault => rw [Effect.outcome_andThen_of_error rfl]
    | ok written =>
        rw [Effect.outcome_andThen_of_ok rfl, embedPage, hsheet]
        rfl

/-- A document with a style. -/
def styledPage : Text := "<html><body><p style=\"color: red\">x</p></body></html>".toList

/-- The document after its style is collected. -/
def collectedDocument : Document :=
  ⟨Doctype.standard, .element htmlTag [] [.element bodyTag [] [.element paragraphTag
    [(className, some "hw_CTY41".toList)] [.text ['x']]]]⟩

theorem styledPage_rendered_alike :
    isDocument styledPage ∧ ReadsTwiceAlike .standard styledPage ∧
      (render .standard styledPage .empty).outcome =
        (collectThenEmbed .standard styledPage .empty).outcome := by
  have hcollect : (collectDocument .standard styledPage .empty).outcome =
      .ok collectedDocument := by decide +kernel
  have hrule : (collectDocument .standard styledPage .empty).state.isEmpty = false := by
    decide +kernel
  have hreads : ReadsTwiceAlike .standard styledPage := by
    constructor
    · intro fault hfault
      rw [hcollect] at hfault
      cases hfault
    · intro document _
      exact iff_of_true rfl hrule
    · intro document written hdocument _ hprint
      rw [hcollect] at hdocument
      cases hdocument
      cases hprint
      rfl
  exact ⟨rfl, hreads, outcome_render_eq fun _ => hreads⟩

/-- A document whose only style is a rule that is dropped. -/
def droppedPage : Text := "<html><body><p style=\"b \x7b color: red \x7d\">x</p></body></html>".toList

/-- Rendering keeps the dropped style, and collecting takes it out. -/
theorem droppedPage_rendered_differently :
    (render .standard droppedPage .empty).outcome = .ok droppedPage ∧
      (collectThenEmbed .standard droppedPage .empty).outcome =
        .ok "<html><body><p>x</p></body></html>".toList ∧
      (render .standard droppedPage .empty).outcome ≠
        (collectThenEmbed .standard droppedPage .empty).outcome := by
  decide +kernel

end Pass
end AtomicCss
