import AtomicCss.Pass.Session
import AtomicCss.Proofs.Pass.Render
import AtomicCss.Proofs.Restyle.Rules
import AtomicCss.Proofs.Sheet.Grouped

/-! # What an action does to the sheet

An action of a pass merges the rules of the styles that it collects, or it empties the sheet. An
action that empties the sheet gives out its CSS text: by itself, as a `style` block, or embedded in a
tree or a page. -/

namespace AtomicCss

open Markup

namespace Effect

variable {σ α β : Type} {x : Effect σ α}

theorem state_andThen_of_error {fault : Fault} (h : x.outcome = .error fault)
    (f : α → σ → Effect σ β) : (x.andThen f).state = x.state := by
  rw [andThen, h]

theorem state_andThen_of_ok {a : α} (h : x.outcome = .ok a) (f : α → σ → Effect σ β) :
    (x.andThen f).state = (f a x.state).state := by
  rw [andThen, h]

/-- Going on without a change of the state. -/
theorem state_andThen_of_keeps {f : α → σ → Effect σ β} (h : ∀ a state, (f a state).state = state) :
    (x.andThen f).state = x.state := by
  cases houtcome : x.outcome with
  | error fault => exact state_andThen_of_error houtcome f
  | ok a => rw [state_andThen_of_ok houtcome, h]

theorem outcome_andThen_eq_ok_iff {f : α → σ → Effect σ β} {b : β} :
    (x.andThen f).outcome = .ok b ↔ ∃ a, x.outcome = .ok a ∧ (f a x.state).outcome = .ok b := by
  cases houtcome : x.outcome with
  | error fault => simp [outcome_andThen_of_error houtcome]
  | ok a => simp [outcome_andThen_of_ok houtcome]

end Effect

namespace Sheet

theorem isEmpty_iff {sheet : Sheet} : sheet.isEmpty ↔ sheet = empty := by
  obtain ⟨entries⟩ := sheet
  simp [isEmpty, empty]

/-- A body with a brace is written as a text that has one. -/
theorem brace_mem_printEntry {body : Text} (h : '{' ∈ body) (selectors : List Text) :
    '{' ∈ printEntry body selectors := by
  rw [printEntry, Text.replaceFirst]
  cases haround : Text.around placeholder body with
  | none => exact h
  | some parts =>
      obtain ⟨before, after⟩ := parts
      have hplain : '{' ∉ placeholder := by decide
      rw [Text.eq_of_around haround] at h
      simp only [List.mem_append, hplain, or_false] at h
      simp only [List.mem_append]
      tauto

/-- Nothing is written of a sheet exactly if it has no rules, where all bodies have a brace. -/
theorem print_eq_nil_iff {sheet : Sheet} (h : ∀ entry ∈ sheet.entries, '{' ∈ entry.1) :
    sheet.print = [] ↔ sheet.isEmpty := by
  obtain ⟨entries⟩ := sheet
  rw [isEmpty_iff]
  cases entries with
  | nil => simp [print, empty]
  | cons entry rest =>
      have hentry := brace_mem_printEntry (h entry List.mem_cons_self) entry.2
      refine iff_of_false ?_ (by simp [empty])
      cases rest with
      | nil => exact List.ne_nil_of_mem hentry
      | cons next rest => simp [print]

/-- Something is written of the rules that were merged, if there were any. -/
theorem print_mergeAll_eq_nil_iff {rules : List GeneratedRule} (h : ∀ rule ∈ rules, '{' ∈ rule.body) :
    (empty.mergeAll rules).print = [] ↔ (empty.mergeAll rules).isEmpty := by
  apply print_eq_nil_iff
  intro entry hentry
  obtain ⟨rule, hrule, hbody⟩ := exists_body_eq_of_mem_entries hentry
  exact hbody ▸ h rule hrule

end Sheet

/-! ## Collecting -/

namespace Pass

variable {settings : Settings} {page : Text} {root : Node} {sheet : Sheet}

/-- The rules of the tree that a page is read as. -/
def pageRules (settings : Settings) (page : Text) : List GeneratedRule :=
  match readTree page with
  | .error _ => []
  | .ok root => rulesThrough settings root.elements

theorem state_collectTree (settings : Settings) (root : Node) (sheet : Sheet) :
    (collectTree settings root sheet).state =
      sheet.mergeAll (rulesThrough settings root.elements) :=
  restyleTree_sheet settings root sheet

theorem state_collectDocument (settings : Settings) (hdocument : isDocument page) (sheet : Sheet) :
    (collectDocument settings page sheet).state = sheet.mergeAll (pageRules settings page) := by
  rw [collectDocument, pageRules, readTree, if_pos hdocument]
  cases Document.read page with
  | error fault => rfl
  | ok document =>
      exact (Effect.state_andThen_of_keeps fun _ _ => rfl).trans
        (state_collectTree settings document.root sheet)

theorem state_collectPage (settings : Settings) (page : Text) (sheet : Sheet) :
    (collectPage settings page sheet).state =
      sheet.mergeAll (if mentionsStyle page then pageRules settings page else []) := by
  cases hmention : mentionsStyle page with
  | false =>
      rw [collectPage, hmention]
      rfl
  | true =>
      cases hdocument : isDocument page with
      | true =>
          rw [collectPage_of_isDocument hmention hdocument,
            Effect.state_andThen_of_keeps fun _ _ => rfl, state_collectDocument settings hdocument,
            if_pos rfl]
      | false =>
          have hread : readTree page = Fragment.read page := by
            rw [readTree, hdocument, if_neg Bool.false_ne_true]
          rw [collectPage, hmention, hdocument, if_pos rfl, pageRules, hread, Bool.not_true,
            if_neg Bool.false_ne_true, if_neg Bool.false_ne_true]
          cases Fragment.read page with
          | error fault => rfl
          | ok container =>
              exact (Effect.state_andThen_of_keeps fun _ _ => rfl).trans
                (state_collectTree settings container sheet)

/-! ## Embedding -/

/-- The `style` block with this CSS text. -/
def styleBlock (settings : Settings) (css : Text) : Text :=
  "<style id=\"".toList ++ settings.styleId.flatMap escapeAttributeChar ++ "\">".toList ++
    escapeStyleText css ++ "</style>".toList

theorem block_eq (hsheet : sheet.isEmpty = false) :
    sheet.block settings.styleId = styleBlock settings sheet.print := by
  unfold Sheet.block styleBlock
  rw [hsheet]
  exact if_neg Bool.false_ne_true

/-- The `style` element with this CSS text. -/
def styleNode (settings : Settings) (css : Text) : Node :=
  .element "style".toList [("id".toList, some settings.styleId)] [.text (escapeStyleText css)]

/-- The text is the page with this CSS text embedded in it, if there is any. -/
inductive EmbedsInPage (settings : Settings) (css page : Text) : Text → Prop
  | nothing (hcss : css = []) : EmbedsInPage settings css page page
  | document {document : Document} {text : Text} (hcss : css ≠ []) (hdocument : isDocument page)
      (hread : Document.read page = .ok document)
      (hprint : Document.print page
        { document with root := insertStyle (styleNode settings css) document.root } = .ok text) :
      EmbedsInPage settings css page text
  | fragment (hcss : css ≠ []) (hfragment : isDocument page = false) :
      EmbedsInPage settings css page (insertBlock (styleBlock settings css) page)

theorem state_embedTree (settings : Settings) (root : Node) (sheet : Sheet) :
    (embedTree settings root sheet).state = .empty := by
  have hflush : (flush sheet).outcome = .ok sheet.print := rfl
  rw [embedTree, Effect.state_andThen_of_ok hflush]
  split_ifs
  · rfl
  · rfl
  · cases styleElement settings sheet.print <;> rfl

theorem eq_of_embedTree {embedded : Node}
    (h : (embedTree settings root sheet).outcome = .ok embedded) :
    (sheet.print = [] ∧ embedded = root) ∨
      (sheet.print ≠ [] ∧ root.isElement ∧
        embedded = insertStyle (styleNode settings sheet.print) root) := by
  have hflush : (flush sheet).outcome = .ok sheet.print := rfl
  rw [embedTree, Effect.outcome_andThen_of_ok hflush] at h
  split_ifs at h with hempty helement
  · exact Or.inl ⟨List.isEmpty_iff.1 hempty, (Except.ok.inj h).symm⟩
  · cases h
  · refine Or.inr ⟨fun hnil => hempty (List.isEmpty_iff.2 hnil), by simpa using helement, ?_⟩
    rw [styleElement] at h
    split_ifs at h
    · exact (Except.ok.inj h).symm
    · cases h

theorem state_embedDocument (document : Document) :
    (embedDocument settings page document sheet).state = .empty :=
  (Effect.state_andThen_of_keeps fun _ _ => rfl).trans
    (state_embedTree settings document.root sheet)

theorem print_of_embedDocument {document : Document} {text : Text} (hcss : sheet.print ≠ [])
    (h : (embedDocument settings page document sheet).outcome = .ok text) :
    Document.print page
      { document with root := insertStyle (styleNode settings sheet.print) document.root } =
        .ok text := by
  obtain ⟨embedded, hembed, hprint⟩ := Effect.outcome_andThen_eq_ok_iff.1 h
  rcases eq_of_embedTree hembed with ⟨hnone, -⟩ | ⟨-, -, rfl⟩
  · exact absurd hnone hcss
  · exact hprint

/-- Embedding in a page leaves the sheet as it is if the page cannot be read, and else empties it. -/
theorem state_embedPage (settings : Settings) (page : Text) (sheet : Sheet) :
    (embedPage settings page sheet).state = .empty ∨
      (embedPage settings page sheet).state = sheet ∧
        ∃ fault, (embedPage settings page sheet).outcome = .error fault := by
  cases hsheet : sheet.isEmpty with
  | true =>
      rw [embedPage, hsheet]
      exact Or.inl (Sheet.isEmpty_iff.1 hsheet)
  | false =>
      cases hdocument : isDocument page with
      | true =>
          cases hread : Document.read page with
          | error fault =>
              rw [embedPage, hsheet, if_neg (by decide), if_pos hdocument, onDocument, hread]
              exact Or.inr ⟨rfl, fault, rfl⟩
          | ok document =>
              rw [embedPage_of_isDocument hsheet hdocument hread]
              exact Or.inl (state_embedDocument document)
      | false =>
          rw [embedPage, hsheet, hdocument]
          exact Or.inl rfl

theorem embedsInPage_of_embedPage {text : Text} (hcss : sheet.print = [] ↔ sheet.isEmpty)
    (h : (embedPage settings page sheet).outcome = .ok text) :
    EmbedsInPage settings sheet.print page text := by
  cases hsheet : sheet.isEmpty with
  | true =>
      rw [embedPage, hsheet] at h
      obtain rfl := Except.ok.inj h
      exact .nothing (hcss.2 hsheet)
  | false =>
      have hne : sheet.print ≠ [] := by
        rw [Ne, hcss, hsheet]
        decide
      cases hdocument : isDocument page with
      | true =>
          cases hread : Document.read page with
          | error fault =>
              rw [embedPage, hsheet, if_neg (by decide), if_pos hdocument, onDocument, hread] at h
              cases h
          | ok document =>
              rw [embedPage_of_isDocument hsheet hdocument hread] at h
              exact .document hne hdocument hread (print_of_embedDocument hne h)
      | false =>
          rw [embedPage, hsheet, hdocument, if_neg (by decide), if_neg (by decide)] at h
          have htext : insertBlock (sheet.block settings.styleId) page = text := Except.ok.inj h
          rw [← htext, block_eq hsheet]
          exact .fragment hne hdocument

end Pass
end AtomicCss
