import AtomicCss.Proofs.Pass.History

/-! # A flushed pass in a session

What is seen of a pass depends on its settings and its sheet alone, and the steps on other passes
leave both as they are. A pass that has just been flushed is therefore as good as new, whatever the
session did before. -/

namespace AtomicCss

open Markup PassAction

namespace Session

/-- The session after some steps, each of them on the pass with its index. -/
def after (steps : List (Nat × PassAction)) (session : Session) : Session :=
  steps.foldl (fun session step => (act step.1 step.2 session).state) session

/-- The actions that the steps take on one pass. -/
def actionsOn (index : Nat) (steps : List (Nat × PassAction)) : List PassAction :=
  (steps.filter fun step => step.1 = index).map Prod.snd

/-- The settings of a pass and its sheet. -/
def view (index : Nat) (session : Session) : Option (Settings × Sheet) :=
  session.passes[index]?.map fun pass => (pass.settings, pass.sheet)

/-- What is seen of a step: what it gives, its notices, and the rules of the pass after it. -/
structure Observation where
  outcome : Except Fault PassResult
  notices : List Notice
  rules : OrderedMap (List Text)

/-- What is seen of actions that are taken on one pass, one after the other. -/
def observe (index : Nat) : List PassAction → Session → List Observation
  | [], _ => []
  | action :: later, session =>
      let effect := act index action session
      ⟨effect.outcome, effect.notices, rules index effect.state⟩ ::
        observe index later effect.state

variable {settings : Settings} {index : Nat} {action : PassAction} {sheet : Sheet}
  {session : Session}

/-! ## One step -/

theorem rules_eq_view (index : Nat) (session : Session) :
    rules index session = ((view index session).map fun pass => pass.2.entries).getD [] := by
  rw [rules, view]
  cases session.passes[index]? <;> rfl

theorem rules_of_view (h : view index session = some (settings, sheet)) :
    rules index session = sheet.entries := by
  rw [rules_eq_view, h]
  rfl

theorem act_of_view_eq_none (h : view index session = none) (action : PassAction) :
    act index action session = .ok session .done := by
  rw [act, Option.map_eq_none_iff.1 h]

/-- An action changes the sheet of its pass as it would change any sheet. -/
theorem view_act (h : view index session = some (settings, sheet)) (action : PassAction) :
    view index (act index action session).state =
      some (settings, (onSheet settings action sheet).state) := by
  obtain ⟨pass, hpass, hview⟩ := Option.map_eq_some_iff.1 h
  obtain ⟨rfl, rfl⟩ := Prod.mk.inj hview
  have hset (pass' : PassState) : (session.passes.set index pass')[index]? = some pass' := by
    rw [List.getElem?_set_self', hpass]
    rfl
  rw [act, hpass]
  cases action <;> simp only [view, hset, Option.map_some]

theorem getElem?_passes_act_of_ne {other : Nat} (h : other ≠ index) (action : PassAction)
    (session : Session) :
    (act other action session).state.passes[index]? = session.passes[index]? := by
  rw [act]
  cases session.passes[other]? with
  | none => rfl
  | some pass => cases action <;> exact List.getElem?_set_ne h

theorem view_act_of_ne {other : Nat} (h : other ≠ index) (action : PassAction)
    (session : Session) : view index (act other action session).state = view index session := by
  rw [view, getElem?_passes_act_of_ne h, view]

/-- An action that works on the sheet gives what it gives there. -/
theorem act_of_isOnSheet (haction : action.isOnSheet)
    (h : view index session = some (settings, sheet)) :
    (act index action session).outcome = (onSheet settings action sheet).outcome ∧
      (act index action session).notices = (onSheet settings action sheet).notices := by
  obtain ⟨pass, hpass, hview⟩ := Option.map_eq_some_iff.1 h
  obtain ⟨rfl, rfl⟩ := Prod.mk.inj hview
  rw [act, hpass]
  cases action <;> first | exact ⟨rfl, rfl⟩ | cases haction

/-- Leaving a pass gives what it gives on the sheet too, so every flushing action does. -/
theorem outcome_act_of_flushes (haction : action.flushes)
    (h : view index session = some (settings, sheet)) :
    (act index action session).outcome = (onSheet settings action sheet).outcome := by
  obtain ⟨pass, hpass, hview⟩ := Option.map_eq_some_iff.1 h
  obtain ⟨rfl, rfl⟩ := Prod.mk.inj hview
  rw [act, hpass]
  cases action <;> first | rfl | cases haction

/-! ## Many steps -/

theorem view_after (h : view index session = some (settings, sheet))
    (steps : List (Nat × PassAction)) :
    view index (after steps session) =
      some (settings, sheetAfter settings (actionsOn index steps) sheet) := by
  induction steps generalizing session sheet with
  | nil => exact h
  | cons step steps ih =>
      obtain ⟨other, action⟩ := step
      by_cases hother : other = index
      · subst hother
        rw [actionsOn, List.filter_cons_of_pos (by simp), List.map_cons]
        exact ih (view_act h action)
      · rw [actionsOn, List.filter_cons_of_neg (by simpa using hother)]
        exact ih ((view_act_of_ne hother action session).trans h)

/-- Two passes with the same settings and the same sheet look the same from then on. -/
theorem observe_congr {other : Nat} {session' : Session} {later : List PassAction}
    (hlater : ∀ action ∈ later, action.isOnSheet)
    (h : view index session = some (settings, sheet))
    (h' : view other session' = some (settings, sheet)) :
    observe index later session = observe other later session' := by
  induction later generalizing session session' sheet with
  | nil => rfl
  | cons action later ih =>
      obtain ⟨haction, hlater⟩ := List.forall_mem_cons.1 hlater
      obtain ⟨houtcome, hnotices⟩ := act_of_isOnSheet haction h
      obtain ⟨houtcome', hnotices'⟩ := act_of_isOnSheet haction h'
      have hview := view_act h action
      have hview' := view_act h' action
      rw [observe, observe, houtcome, houtcome', hnotices, hnotices', rules_of_view hview,
        rules_of_view hview', ih hlater hview hview']

theorem view_start {all : List Settings} (h : all[index]? = some settings) :
    view index (start all) = some (settings, .empty) := by
  rw [view, start, List.getElem?_map, h]
  rfl

/-- After a flush that succeeds a pass has no rules and looks like the only pass of a new session
with its settings. The flush gave out the rules that were merged since the sheet was last empty,
those that it merged itself included, each body once and in the order of their first sight. -/
theorem flushed_as_new {all : List Settings} (hsettings : all[index]? = some settings)
    (history : List (Nat × PassAction)) (hflush : action.flushes) {result : PassResult}
    (hok : (act index action (after history (start all))).outcome = .ok result) :
    (∀ later : List PassAction, (∀ action ∈ later, action.isOnSheet) →
      observe index later (act index action (after history (start all))).state =
        observe 0 later (start [settings])) ∧
    rules index (act index action (after history (start all))).state = [] ∧
    ∃ earlier recent, actionsOn index history = earlier ++ recent ∧
      SplitsAtEmpty settings .empty earlier recent ∧
      Emits settings (sheetAfter settings (actionsOn index history) .empty)
        (Sheet.print ⟨groupByBody
          (recent.flatMap (mergedRules settings) ++ action.mergedRules settings)⟩)
        action result := by
  have hview := view_after (view_start hsettings) history
  have hresult := outcome_act_of_flushes hflush hview
  rw [hok] at hresult
  have hempty := (state_onSheet settings action _).2 hflush result hresult.symm
  have hnew := view_act hview action
  rw [hempty] at hnew
  refine ⟨fun later hlater => observe_congr hlater hnew (view_start rfl), rules_of_view hnew, ?_⟩
  obtain ⟨earlier, recent, hhistory, hsplit⟩ :=
    exists_splitsAtEmpty settings (actionsOn index history)
  refine ⟨earlier, recent, hhistory, hsplit, ?_⟩
  have hmerged : (sheetAfter settings (actionsOn index history) .empty).mergeAll
        (action.mergedRules settings) =
      ⟨groupByBody (recent.flatMap (mergedRules settings) ++ action.mergedRules settings)⟩ := by
    rw [hhistory, hsplit.sheetAfter_eq, ← Sheet.mergeAll_append, ← Sheet.entries_mergeAll_empty]
  rw [← hmerged]
  refine emits_onSheet ?_ hflush hresult.symm
  rw [hmerged]
  intro entry hentry
  obtain ⟨body, hbody, rfl⟩ := List.mem_map.1 hentry
  obtain ⟨rule, hrule, rfl⟩ := List.mem_map.1 (List.mem_eraseDups.1 hbody)
  rcases List.mem_append.1 hrule with hrecent | haction
  · obtain ⟨earlierAction, -, hrule⟩ := List.mem_flatMap.1 hrecent
    exact brace_mem_body_of_mem_mergedRules hrule
  · exact brace_mem_body_of_mem_mergedRules haction

/-- Two passes that collect a page each. -/
def visits : List (Nat × PassAction) :=
  [(0, .collectPage "<p style=\"color: red\">x</p>".toList),
    (1, .collectPage "<p style=\"margin: 0\">y</p>".toList)]

/-- The page of the first pass after its style is collected. -/
def visitedPage : Text := "<p class=\"hw_CTY41\">x</p>".toList

/-- The page with the rule of the first pass, and without that of the second. -/
def embeddedPage : Text :=
  "<style id=\"headwind\">.hw_CTY41 \x7b color: red \x7d</style><p class=\"hw_CTY41\">x</p>".toList

theorem firstVisit_embedded_as_new :
    let embedded := act 0 (.embedPage visitedPage) (after visits (start [.standard, .standard]))
    embedded.outcome = .ok (.text embeddedPage) ∧ rules 0 embedded.state = [] ∧
      ∀ later : List PassAction, (∀ action ∈ later, action.isOnSheet) →
        observe 0 later embedded.state = observe 0 later (start [.standard]) := by
  have hsettings : [Settings.standard, .standard][0]? = some .standard := rfl
  have hembed : (Pass.embedPage .standard visitedPage
      (sheetAfter .standard (actionsOn 0 visits) .empty)).outcome = .ok embeddedPage := by
    decide +kernel
  have hok : (act 0 (.embedPage visitedPage)
      (after visits (start [.standard, .standard]))).outcome = .ok (.text embeddedPage) := by
    rw [outcome_act_of_flushes rfl (view_after (view_start hsettings) visits), onSheet,
      onSheet.asText, hembed]
    rfl
  obtain ⟨hlater, hrules, -⟩ := flushed_as_new hsettings visits rfl hok
  exact ⟨hok, hrules, hlater⟩

end Session
end AtomicCss
