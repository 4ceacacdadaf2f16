import AtomicCss.Proofs.Pass.Emptied

/-! # Histories of a pass

A pass that has been flushed goes on as a fresh one, whatever happened to it before. What a flush
gives out is the CSS text of the rules that were merged since the sheet was last empty, grouped by
their bodies. -/

namespace AtomicCss

open Markup Pass

namespace PassAction

/-- Whether an action is one that flushes the sheet when it succeeds. -/
def flushes : PassAction → Bool
  | embedPage _ => true
  | render _ => true
  | embedTree _ => true
  | flush => true
  | flushBlock => true
  | leave => true
  | _ => false

/-- Whether an action works on the sheet and leaves alone which pass is active. -/
def isOnSheet : PassAction → Bool
  | enter => false
  | leave => false
  | _ => true

/-- The rules of the styles that an action collects. -/
def mergedRules (settings : Settings) : PassAction → List GeneratedRule
  | collectPage page => if mentionsStyle page then pageRules settings page else []
  | render page => if isDocument page || mentionsStyle page then pageRules settings page else []
  | collectTree root => rulesThrough settings root.elements
  | collectElement (.element _ attributes _) => rulesOf settings attributes
  | _ => []

/-- The result of a flushing action holds this CSS text, where there is any, and no other that the
sheet had. Rendering collects the styles of the page before that. -/
inductive Emits (settings : Settings) (sheet : Sheet) (css : Text) :
    PassAction → PassResult → Prop
  | flush : Emits settings sheet css .flush (.text css)
  | blockNothing (hcss : css = []) : Emits settings sheet css .flushBlock (.text [])
  | block (hcss : css ≠ []) :
      Emits settings sheet css .flushBlock (.text (styleBlock settings css))
  | treeNothing {root : Node} (hcss : css = []) :
      Emits settings sheet css (.embedTree root) (.tree root)
  | tree {root : Node} (hcss : css ≠ []) :
      Emits settings sheet css (.embedTree root) (.tree (insertStyle (styleNode settings css) root))
  | page {page text : Text} (hpage : EmbedsInPage settings css page text) :
      Emits settings sheet css (.embedPage page) (.text text)
  | documentNothing {page : Text} (hcss : css = []) (hdocument : isDocument page) :
      Emits settings sheet css (.render page) (.text page)
  | document {page text : Text} {document : Document} (hcss : css ≠ [])
      (hdocument : isDocument page)
      (hcollect : (collectDocument settings page sheet).outcome = .ok document)
      (hprint : Document.print page
        { document with root := insertStyle (styleNode settings css) document.root } = .ok text) :
      Emits settings sheet css (.render page) (.text text)
  | fragment {page collected text : Text} (hfragment : isDocument page = false)
      (hcollect : (Pass.collectPage settings page sheet).outcome = .ok collected)
      (hpage : EmbedsInPage settings css collected text) :
      Emits settings sheet css (.render page) (.text text)
  | leave : Emits settings sheet css .leave .done

end PassAction

open PassAction

variable {settings : Settings} {action : PassAction} {sheet : Sheet} {result : PassResult}

/-! ## One action -/

theorem brace_mem_body_of_mem_pageRules {page : Text} {rule : GeneratedRule}
    (h : rule ∈ pageRules settings page) : '{' ∈ rule.body := by
  rw [pageRules] at h
  cases hread : readTree page with
  | error fault =>
      rw [hread] at h
      cases h
  | ok root =>
      rw [hread] at h
      exact brace_mem_body_of_mem_rulesThrough h

theorem brace_mem_body_of_mem_mergedRules {rule : GeneratedRule}
    (h : rule ∈ action.mergedRules settings) : '{' ∈ rule.body := by
  cases action with
  | collectPage page =>
      rw [mergedRules] at h
      split_ifs at h
      · exact brace_mem_body_of_mem_pageRules h
      · cases h
  | render page =>
      rw [mergedRules] at h
      split_ifs at h
      · exact brace_mem_body_of_mem_pageRules h
      · cases h
  | collectTree root => exact brace_mem_body_of_mem_rulesThrough h
  | collectElement node =>
      cases node with
      | element tag attributes children => exact brace_mem_body_of_mem_rulesOf h
      | text content => cases h
      | comment content => cases h
      | instruction target content => cases h
  | embedPage page => cases h
  | embedTree root => cases h
  | flush => cases h
  | flushBlock => cases h
  | enter => cases h
  | leave => cases h

/-- Rendering merges the rules of the page and then empties the sheet, unless it fails before. -/
theorem state_render (settings : Settings) (page : Text) (sheet : Sheet) :
    (Pass.render settings page sheet).state = .empty ∨
      (Pass.render settings page sheet).state =
          sheet.mergeAll ((PassAction.render page).mergedRules settings) ∧
        ∃ fault, (Pass.render settings page sheet).outcome = .error fault := by
  rw [mergedRules]
  cases hdocument : isDocument page with
  | true =>
      rw [Pass.render, if_pos hdocument, renderDocument_eq, Bool.true_or, if_pos rfl]
      have hstate := state_collectDocument settings hdocument sheet
      cases hcollect : (collectDocument settings page sheet).outcome with
      | error fault =>
          rw [Effect.state_andThen_of_error hcollect, Effect.outcome_andThen_of_error hcollect]
          exact Or.inr ⟨hstate, fault, rfl⟩
      | ok document =>
          rw [Effect.state_andThen_of_ok hcollect]
          left
          split_ifs with hempty
          · exact Sheet.isEmpty_iff.1 hempty
          · exact state_embedDocument document
  | false =>
      rw [Pass.render, hdocument, if_neg Bool.false_ne_true, Bool.false_or,
        ← state_collectPage settings page sheet]
      cases hcollect : (Pass.collectPage settings page sheet).outcome with
      | error fault =>
          rw [Effect.state_andThen_of_error hcollect, Effect.outcome_andThen_of_error hcollect]
          exact Or.inr ⟨rfl, fault, rfl⟩
      | ok collected =>
          rw [Effect.state_andThen_of_ok hcollect, Effect.outcome_andThen_of_ok hcollect]
          exact state_embedPage settings collected _

/-- An action empties the sheet or merges the rules of the styles that it collects. One that flushes
the sheet and succeeds empties it. -/
theorem state_onSheet (settings : Settings) (action : PassAction) (sheet : Sheet) :
    ((Session.onSheet settings action sheet).state = .empty ∨
      (Session.onSheet settings action sheet).state =
        sheet.mergeAll (action.mergedRules settings)) ∧
    (action.flushes → ∀ result, (Session.onSheet settings action sheet).outcome = .ok result →
      (Session.onSheet settings action sheet).state = .empty) := by
  cases action with
  | collectPage page => exact ⟨Or.inr (state_collectPage settings page sheet), nofun⟩
  | collectTree root => exact ⟨Or.inr (state_collectTree settings root sheet), nofun⟩
  | collectElement node =>
      refine ⟨Or.inr ?_, nofun⟩
      cases node with
      | element tag attributes children =>
          exact (restyleAttributes_sheet settings attributes sheet).1
      | text content => rfl
      | comment content => rfl
      | instruction target content => rfl
  | embedPage page =>
      rcases state_embedPage settings page sheet with hempty | ⟨hkept, fault, hfault⟩
      · exact ⟨Or.inl hempty, fun _ _ _ => hempty⟩
      · refine ⟨Or.inr hkept, fun _ result hok => ?_⟩
        obtain ⟨text, htext, -⟩ := Outcome.map_eq_ok_iff.1 hok
        exact nomatch hfault.symm.trans htext
  | render page =>
      rcases state_render settings page sheet with hempty | ⟨hkept, fault, hfault⟩
      · exact ⟨Or.inl hempty, fun _ _ _ => hempty⟩
      · refine ⟨Or.inr hkept, fun _ result hok => ?_⟩
        obtain ⟨text, htext, -⟩ := Outcome.map_eq_ok_iff.1 hok
        exact nomatch hfault.symm.trans htext
  | embedTree root =>
      have hempty := state_embedTree settings root sheet
      exact ⟨Or.inl hempty, fun _ _ _ => hempty⟩
  | flush => exact ⟨Or.inl rfl, fun _ _ _ => rfl⟩
  | flushBlock => exact ⟨Or.inl rfl, fun _ _ _ => rfl⟩
  | enter => exact ⟨Or.inr rfl, nofun⟩
  | leave => exact ⟨Or.inl rfl, fun _ _ _ => rfl⟩

theorem emits_render {page text : Text}
    (hbraces : ∀ entry ∈ (sheet.mergeAll ((PassAction.render page).mergedRules settings)).entries,
      '{' ∈ entry.1)
    (h : (Pass.render settings page sheet).outcome = .ok text) :
    Emits settings sheet (sheet.mergeAll ((PassAction.render page).mergedRules settings)).print
      (.render page) (.text text) := by
  have hcss := Sheet.print_eq_nil_iff hbraces
  rw [mergedRules] at hcss ⊢
  cases hdocument : isDocument page with
  | true =>
      rw [hdocument, Bool.true_or, if_pos rfl, ← state_collectDocument settings hdocument] at hcss
      rw [Bool.true_or, if_pos rfl, ← state_collectDocument settings hdocument]
      rw [Pass.render, if_pos hdocument, renderDocument_eq] at h
      obtain ⟨document, hcollect, hembed⟩ := Effect.outcome_andThen_eq_ok_iff.1 h
      split_ifs at hembed with hempty
      · obtain rfl := Except.ok.inj hembed
        exact .documentNothing (hcss.2 hempty) hdocument
      · have hne := mt hcss.1 hempty
        exact .document hne hdocument hcollect (print_of_embedDocument hne hembed)
  | false =>
      rw [hdocument, Bool.false_or, ← state_collectPage settings page sheet] at hcss
      rw [Bool.false_or, ← state_collectPage settings page sheet]
      rw [Pass.render, hdocument, if_neg Bool.false_ne_true] at h
      obtain ⟨collected, hcollect, hembed⟩ := Effect.outcome_andThen_eq_ok_iff.1 h
      exact .fragment hdocument hcollect (embedsInPage_of_embedPage hcss hembed)

/-- A flushing action that succeeds gives out what it merged and what the sheet had before. -/
theorem emits_onSheet
    (hbraces : ∀ entry ∈ (sheet.mergeAll (action.mergedRules settings)).entries, '{' ∈ entry.1)
    (hflush : action.flushes) (h : (Session.onSheet settings action sheet).outcome = .ok result) :
    Emits settings sheet (sheet.mergeAll (action.mergedRules settings)).print action result := by
  have hcss := Sheet.print_eq_nil_iff hbraces
  cases action with
  | collectPage page => cases hflush
  | collectTree root => cases hflush
  | collectElement node => cases hflush
  | enter => cases hflush
  | render page =>
      obtain ⟨text, htext, rfl⟩ := Outcome.map_eq_ok_iff.1 h
      exact emits_render hbraces htext
  | embedPage page =>
      obtain ⟨text, htext, rfl⟩ := Outcome.map_eq_ok_iff.1 h
      exact .page (embedsInPage_of_embedPage hcss htext)
  | embedTree root =>
      obtain ⟨embedded, hembedded, rfl⟩ := Outcome.map_eq_ok_iff.1 h
      rcases eq_of_embedTree hembedded with ⟨hnone, rfl⟩ | ⟨hsome, -, rfl⟩
      · exact .treeNothing hnone
      · exact .tree hsome
  | flush =>
      obtain rfl := Except.ok.inj h
      exact .flush
  | flushBlock =>
      have hresult : PassResult.text (sheet.block settings.styleId) = result := Except.ok.inj h
      rw [← hresult]
      cases hsheet : sheet.isEmpty with
      | true =>
          obtain rfl := Sheet.isEmpty_iff.1 hsheet
          exact .blockNothing rfl
      | false =>
          rw [block_eq hsheet]
          refine .block fun hnone => ?_
          have hempty : sheet.isEmpty := hcss.1 hnone
          rw [hsheet] at hempty
          cases hempty
  | leave =>
      obtain rfl := Except.ok.inj h
      exact .leave

/-! ## Many actions -/

/-- The sheet after some actions. -/
def sheetAfter (settings : Settings) (actions : List PassAction) (sheet : Sheet) : Sheet :=
  actions.foldl (fun sheet action => (Session.onSheet settings action sheet).state) sheet

theorem sheetAfter_append (first second : List PassAction) :
    sheetAfter settings (first ++ second) sheet =
      sheetAfter settings second (sheetAfter settings first sheet) :=
  List.foldl_append

/-- The first actions leave an empty sheet, and none of the later ones does. -/
structure SplitsAtEmpty (settings : Settings) (sheet : Sheet) (earlier recent : List PassAction) :
    Prop where
  empty_earlier : sheetAfter settings earlier sheet = .empty
  not_empty_recent : ∀ moment, moment <+: recent → moment ≠ [] →
    sheetAfter settings (earlier ++ moment) sheet ≠ .empty

/-- There is a last moment at which the sheet is empty. -/
theorem exists_splitsAtEmpty (settings : Settings) (actions : List PassAction) :
    ∃ earlier recent, actions = earlier ++ recent ∧
      SplitsAtEmpty settings .empty earlier recent := by
  induction actions using List.reverseRecOn with
  | nil =>
      refine ⟨[], [], rfl, rfl, ?_⟩
      intro moment hmoment hne
      exact absurd (List.prefix_nil.1 hmoment) hne
  | append_singleton actions action ih =>
      obtain ⟨earlier, recent, rfl, hsplit⟩ := ih
      by_cases hempty : sheetAfter settings (earlier ++ recent ++ [action]) .empty = .empty
      · refine ⟨earlier ++ recent ++ [action], [], (List.append_nil _).symm, hempty, ?_⟩
        intro moment hmoment hne
        exact absurd (List.prefix_nil.1 hmoment) hne
      · refine ⟨earlier, recent ++ [action], List.append_assoc _ _ _, hsplit.empty_earlier, ?_⟩
        intro moment hmoment hne
        rcases List.prefix_concat_iff.1 hmoment with rfl | hmoment
        · rwa [← List.append_assoc]
        · exact hsplit.not_empty_recent moment hmoment hne

/-- Since the sheet was last empty it has been given the rules of every action. -/
theorem SplitsAtEmpty.sheetAfter_eq {earlier recent : List PassAction}
    (h : SplitsAtEmpty settings .empty earlier recent) :
    sheetAfter settings (earlier ++ recent) .empty =
      Sheet.empty.mergeAll (recent.flatMap (mergedRules settings)) := by
  induction recent using List.reverseRecOn with
  | nil => rw [List.append_nil, h.empty_earlier, List.flatMap_nil, Sheet.mergeAll_nil]
  | append_singleton recent action ih =>
      have hbefore : SplitsAtEmpty settings .empty earlier recent :=
        ⟨h.empty_earlier, fun moment hmoment =>
          h.not_empty_recent moment (hmoment.trans (List.prefix_append _ _))⟩
      have hlast := h.not_empty_recent (recent ++ [action]) List.prefix_rfl (by simp)
      rw [← List.append_assoc, sheetAfter_append] at hlast ⊢
      rw [List.flatMap_append, List.flatMap_singleton, Sheet.mergeAll_append, ← ih hbefore]
      exact (state_onSheet settings action _).1.resolve_left hlast

end AtomicCss
