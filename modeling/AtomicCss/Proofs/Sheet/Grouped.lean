import AtomicCss.Proofs.Sheet.Pairs
import AtomicCss.Sheet.Printer

/-! # Rules grouped by their bodies

Merging rules into an empty sheet groups them: each body stands once, where it is seen first, and has
the selectors of its rules, each once and in the order in which they are seen first. -/

namespace AtomicCss

/-- The selectors of the rules with this body, each where it is seen first. -/
def selectorsOf (rules : List GeneratedRule) (body : Text) : List Text :=
  ((rules.filter fun rule => rule.body = body).map GeneratedRule.selector).eraseDups

/-- The bodies of the rules, each where it is seen first, with their selectors. -/
def groupByBody (rules : List GeneratedRule) : OrderedMap (List Text) :=
  (rules.map GeneratedRule.body).eraseDups.map fun body => (body, selectorsOf rules body)

theorem selectorsOf_concat_self (rules : List GeneratedRule) (rule : GeneratedRule) :
    selectorsOf (rules ++ [rule]) rule.body =
      Sheet.addSelector rule.selector (selectorsOf rules rule.body) := by
  rw [selectorsOf, List.filter_append, List.filter_cons_of_pos (by simp), List.filter_nil,
    List.map_append, List.map_singleton, Sheet.eraseDups_concat, Sheet.addSelector, selectorsOf]
  simp only [List.mem_eraseDups]

theorem selectorsOf_concat_of_ne {body : Text} {rule : GeneratedRule} (h : rule.body ≠ body)
    (rules : List GeneratedRule) : selectorsOf (rules ++ [rule]) body = selectorsOf rules body := by
  rw [selectorsOf, List.filter_append, List.filter_cons_of_neg (by simpa using h), List.filter_nil,
    List.append_nil, selectorsOf]

theorem selectorsOf_of_notMem {body : Text} {rules : List GeneratedRule}
    (h : body ∉ rules.map GeneratedRule.body) : selectorsOf rules body = [] := by
  have hnone : (rules.filter fun rule => rule.body = body) = [] := by
    rw [List.filter_eq_nil_iff]
    intro rule hrule hbody
    exact h (List.mem_map.2 ⟨rule, hrule, of_decide_eq_true hbody⟩)
  rw [selectorsOf, hnone, List.map_nil, List.eraseDups_nil]

theorem Sheet.selectors_mergeAll_empty (rules : List GeneratedRule) (body : Text) :
    (empty.mergeAll rules).selectors body = selectorsOf rules body := by
  induction rules using List.reverseRecOn with
  | nil => rfl
  | append_singleton rules rule ih =>
      rw [mergeAll_append, mergeAll_cons, mergeAll_nil]
      by_cases hbody : body = rule.body
      · subst hbody
        rw [selectors_merge, ih, selectorsOf_concat_self]
      · rw [selectors_merge_of_ne hbody, ih, selectorsOf_concat_of_ne (Ne.symm hbody)]

/-- Merging into an empty sheet groups rules by their bodies. -/
theorem Sheet.entries_mergeAll_empty (rules : List GeneratedRule) :
    (empty.mergeAll rules).entries = groupByBody rules := by
  induction rules using List.reverseRecOn with
  | nil => rfl
  | append_singleton rules rule ih =>
      rw [mergeAll_append, mergeAll_cons, mergeAll_nil, merge, ih, groupByBody, groupByBody,
        List.map_append, List.map_singleton, eraseDups_concat]
      have hnodup : (rules.map GeneratedRule.body).eraseDups.Nodup := by
        rw [← bodies_mergeAll_empty]
        exact (isDistinct_empty.mergeAll rules).bodies_nodup
      have hothers : ∀ body ∈ (rules.map GeneratedRule.body).eraseDups, body ≠ rule.body →
          selectorsOf (rules ++ [rule]) body = selectorsOf rules body :=
        fun body _ hne => selectorsOf_concat_of_ne (Ne.symm hne) rules
      by_cases hmem : rule.body ∈ rules.map GeneratedRule.body
      · rw [if_pos hmem, OrderedMap.alter_map_of_mem hnodup (List.mem_eraseDups.2 hmem)]
        apply List.map_congr_left
        intro body hbody
        by_cases hsame : body = rule.body
        · rw [if_pos hsame, hsame, selectorsOf_concat_self, Option.getD_some]
        · rw [if_neg hsame, hothers body hbody hsame]
      · have hnew : rule.body ∉ (rules.map GeneratedRule.body).eraseDups :=
          fun h => hmem (List.mem_eraseDups.1 h)
        have hkept : (rules.map GeneratedRule.body).eraseDups.map
              (fun body => (body, selectorsOf (rules ++ [rule]) body)) =
            (rules.map GeneratedRule.body).eraseDups.map
              fun body => (body, selectorsOf rules body) := by
          apply List.map_congr_left
          intro body hbody
          rw [hothers body hbody]
          rintro rfl
          exact hnew hbody
        rw [if_neg hmem, OrderedMap.alter_map_of_notMem hnew, List.map_append, List.map_singleton,
          hkept, selectorsOf_concat_self, selectorsOf_of_notMem hmem, Option.getD_none]

/-- The bodies of a sheet that rules were merged into are theirs. -/
theorem Sheet.exists_body_eq_of_mem_entries {rules : List GeneratedRule} {entry : Text × List Text}
    (h : entry ∈ (empty.mergeAll rules).entries) : ∃ rule ∈ rules, rule.body = entry.1 := by
  rw [entries_mergeAll_empty] at h
  obtain ⟨body, hbody, rfl⟩ := List.mem_map.1 h
  exact List.mem_map.1 (List.mem_eraseDups.1 hbody)

end AtomicCss
