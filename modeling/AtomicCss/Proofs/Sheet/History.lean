import AtomicCss.Pass.Basic
import AtomicCss.Proofs.Sheet.Grouped
import AtomicCss.Proofs.Sheet.Order
import Mathlib.Data.List.DropRight

/-! # Histories of a sheet

Whatever is done with a sheet, it holds the rules that were merged since it was last emptied, and
nothing else: grouped by their bodies, the bodies and the selectors of each body where they are seen
first. Merging a rule tells whether its body is among these. -/

namespace AtomicCss

/-- What can be done with a sheet. -/
inductive SheetAction where
  | merge (rule : GeneratedRule)
  | mergeAll (rules : List GeneratedRule)
  | mergeStyle (settings : Settings) (style : Text)
  | print
  | flush
  | block (styleId : Text)
  | clear

/-- What an action gives. -/
inductive SheetAnswer where
  | isNew (isNew : Bool)
  | text (text : Text)
  | done
  | failed (error : Style.StyleError)

namespace SheetAction

/-- Takes an action: the sheet that it leaves, and what it gives. -/
def perform (sheet : Sheet) : SheetAction → Sheet × SheetAnswer
  | merge rule => (sheet.merge rule, .isNew (sheet.isNew rule))
  | mergeAll rules => (sheet.mergeAll rules, .done)
  | mergeStyle settings style =>
      match (compileStyle settings style).outcome with
      | .ok compiled => (sheet.mergeAll compiled.rules, .done)
      | .error error => (sheet, .failed error)
  | print => (sheet, .text sheet.print)
  | flush => ((Pass.flush sheet).state, .text sheet.print)
  | block styleId => (sheet, .text (sheet.block styleId))
  | clear => (.empty, .done)

/-- The sheet that actions leave. -/
def performAll (actions : List SheetAction) (sheet : Sheet) : Sheet :=
  actions.foldl (fun sheet action => (action.perform sheet).1) sheet

/-- What actions give, one after the other. -/
def answers : List SheetAction → Sheet → List SheetAnswer
  | [], _ => []
  | action :: actions, sheet =>
      (action.perform sheet).2 :: answers actions (action.perform sheet).1

/-- Whether an action empties the sheet. -/
def empties : SheetAction → Bool
  | flush => true
  | clear => true
  | _ => false

/-- The rules that an action merges. A style that cannot be read has none. -/
def rules : SheetAction → List GeneratedRule
  | merge rule => [rule]
  | mergeAll rules => rules
  | mergeStyle settings style => compiledRules settings style
  | _ => []

/-- The rules that were merged since the sheet was last emptied, in order. -/
def rulesSinceEmptied (actions : List SheetAction) : List GeneratedRule :=
  (actions.rtakeWhile fun action => !action.empties).flatMap rules

/-! ## Steps and runs -/

/-- An action empties the sheet, or it merges its rules and does nothing else. -/
theorem perform_fst (action : SheetAction) (sheet : Sheet) :
    (action.perform sheet).1 = if action.empties then .empty else sheet.mergeAll action.rules := by
  cases action with
  | mergeStyle settings style =>
      rw [perform, rules, compiledRules]
      cases (compileStyle settings style).outcome <;> rfl
  | merge rule => rfl
  | mergeAll rules => rfl
  | print => rfl
  | flush => rfl
  | block styleId => rfl
  | clear => rfl

theorem performAll_append (first second : List SheetAction) (sheet : Sheet) :
    performAll (first ++ second) sheet = performAll second (performAll first sheet) :=
  List.foldl_append

theorem answers_append (first second : List SheetAction) (sheet : Sheet) :
    answers (first ++ second) sheet =
      answers first sheet ++ answers second (performAll first sheet) := by
  induction first generalizing sheet with
  | nil => rfl
  | cons action first ih =>
      rw [List.cons_append, answers, answers, ih, List.cons_append]
      rfl

theorem length_answers (actions : List SheetAction) (sheet : Sheet) :
    (answers actions sheet).length = actions.length := by
  induction actions generalizing sheet with
  | nil => rfl
  | cons action actions ih => rw [answers, List.length_cons, ih, List.length_cons]

theorem rulesSinceEmptied_concat (actions : List SheetAction) (action : SheetAction) :
    rulesSinceEmptied (actions ++ [action]) =
      if action.empties then [] else rulesSinceEmptied actions ++ action.rules := by
  rw [rulesSinceEmptied, List.rtakeWhile_concat]
  cases action.empties with
  | true => rfl
  | false =>
      rw [Bool.not_false, if_pos rfl, List.flatMap_append, List.flatMap_singleton,
        rulesSinceEmptied]
      rfl

/-- A sheet that was new is the sheet of the rules that were merged since it was last emptied. -/
theorem performAll_empty (actions : List SheetAction) :
    performAll actions .empty = Sheet.empty.mergeAll (rulesSinceEmptied actions) := by
  -- the last action settles whether what was merged before it still counts
  induction actions using List.reverseRecOn with
  | nil => rfl
  | append_singleton actions action ih =>
      calc
        performAll (actions ++ [action]) .empty =
            (action.perform (performAll actions .empty)).1 := performAll_append _ _ _
        _ = if action.empties then .empty else
            (Sheet.empty.mergeAll (rulesSinceEmptied actions)).mergeAll action.rules := by
          rw [perform_fst, ih]
        _ = Sheet.empty.mergeAll (rulesSinceEmptied (actions ++ [action])) := by
          rw [rulesSinceEmptied_concat, ← Sheet.mergeAll_append]
          split_ifs <;> rfl

end SheetAction

/-! ## Grouped rules -/

namespace Sheet

/-- A sheet that holds these rules and no others, each body and each selector of a body where it is
seen first. -/
structure IsGroupingOf (sheet : Sheet) (rules : List GeneratedRule) : Prop where
  bodies : sheet.bodies = (rules.map GeneratedRule.body).eraseDups
  selectors : ∀ body, sheet.selectors body = selectorsOf rules body
  selectors_ne_nil : ∀ body ∈ sheet.bodies, sheet.selectors body ≠ []
  contains : ∀ body, sheet.contains body ↔ body ∈ sheet.bodies
  size : sheet.size = sheet.bodies.length
  merged_again : sheet.mergeAll rules = sheet

theorem isGroupingOf_mergeAll_empty (rules : List GeneratedRule) :
    (empty.mergeAll rules).IsGroupingOf rules where
  bodies := bodies_mergeAll_empty rules
  selectors := selectors_mergeAll_empty rules
  selectors_ne_nil := by
    intro body hbody
    rw [bodies_mergeAll_empty, List.mem_eraseDups] at hbody
    obtain ⟨rule, hrule, rfl⟩ := List.mem_map.1 hbody
    exact List.ne_nil_of_mem (mem_selectors_mergeAll.2 (Or.inr hrule))
  contains := fun _ => contains_iff
  size := size_eq_length_bodies _
  merged_again := mergeAll_mergeAll rules empty

/-- A body is new where no rule that was merged has it. -/
theorem isNew_mergeAll_empty (rules : List GeneratedRule) (rule : GeneratedRule) :
    (empty.mergeAll rules).isNew rule = decide (rule.body ∉ rules.map GeneratedRule.body) := by
  have hcontains : (empty.mergeAll rules).contains rule.body =
      decide (rule.body ∈ rules.map GeneratedRule.body) := by
    rw [Bool.eq_iff_iff, contains_iff, bodies_mergeAll_empty, List.mem_eraseDups, decide_eq_true_iff]
  rw [isNew, hcontains, decide_not]

end Sheet

/-! ## Histories -/

/-- After any actions a sheet that was new holds the rules that were merged since it was last
emptied. Each merge of a single rule in the history told whether the rules merged up to there since
the sheet was last emptied lacked its body. -/
theorem SheetAction.isGroupingOf_performAll (actions : List SheetAction) :
    (performAll actions .empty).IsGroupingOf (rulesSinceEmptied actions) ∧
      ∀ before rule after, actions = before ++ merge rule :: after →
        (answers actions .empty)[before.length]? = some
          (.isNew (decide (rule.body ∉ (rulesSinceEmptied before).map GeneratedRule.body))) := by
  constructor
  · rw [performAll_empty]
    exact Sheet.isGroupingOf_mergeAll_empty _
  · rintro before rule after rfl
    rw [answers_append, List.getElem?_append_right (length_answers before .empty).le,
      length_answers, Nat.sub_self, performAll_empty, ← Sheet.isNew_mergeAll_empty]
    rfl

/-- A body that is merged before the sheet is emptied and twice after that. -/
def flushedBetween : List SheetAction :=
  [.merge ⟨['a'], ['x']⟩, .flush, .merge ⟨['a'], ['y']⟩, .mergeAll [⟨['b'], ['x']⟩],
    .merge ⟨['a'], ['x']⟩]

/-- It is new again once the sheet has been emptied, and has the selectors merged since then. -/
theorem flushedBetween_grouped :
    (SheetAction.performAll flushedBetween .empty).bodies = [['a'], ['b']] ∧
      (SheetAction.performAll flushedBetween .empty).selectors ['a'] = [['y'], ['x']] ∧
      (SheetAction.answers flushedBetween .empty)[2]? = some (.isNew true) ∧
      (SheetAction.answers flushedBetween .empty)[4]? = some (.isNew false) := by
  obtain ⟨hgrouping, hmerge⟩ := SheetAction.isGroupingOf_performAll flushedBetween
  refine ⟨?_, ?_, hmerge (flushedBetween.take 2) _ _ rfl, hmerge (flushedBetween.take 4) _ _ rfl⟩
  · rw [hgrouping.bodies]
    decide
  · rw [hgrouping.selectors]
    decide

end AtomicCss
