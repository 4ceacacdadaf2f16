import AtomicCss.Proofs.OrderedMap
import AtomicCss.Sheet.Basic
import Mathlib.Data.List.Induction

/-! # What a sheet holds

A sheet holds pairs of a body and a selector. Merging rules makes these pairs and no others, each
of them once, and the bodies stand in the order in which they were first seen. -/

namespace AtomicCss.Sheet

/-- The bodies of a sheet, in the order in which they are written. -/
def bodies (sheet : Sheet) : List Text := OrderedMap.names sheet.entries

/-- Every body of a sheet with each of its selectors. -/
def pairs (sheet : Sheet) : List GeneratedRule :=
  sheet.entries.flatMap fun entry => entry.2.map (GeneratedRule.mk entry.1)

@[simp]
theorem pairs_empty : pairs empty = [] := rfl

/-! ## Bodies in first-seen order -/

theorem bodies_merge (rule : GeneratedRule) (sheet : Sheet) :
    (sheet.merge rule).bodies =
      if rule.body ∈ sheet.bodies then sheet.bodies else sheet.bodies ++ [rule.body] :=
  OrderedMap.names_alter _ _ _

theorem size_eq_length_bodies (sheet : Sheet) : sheet.size = sheet.bodies.length :=
  (List.length_map _).symm

theorem contains_iff {body : Text} {sheet : Sheet} : sheet.contains body ↔ body ∈ sheet.bodies := by
  obtain ⟨entries⟩ := sheet
  rw [contains, OrderedMap.has, bodies, OrderedMap.names]
  induction entries with
  | nil => simp [OrderedMap.get?]
  | cons entry rest ih =>
      obtain ⟨key, selectors⟩ := entry
      rw [OrderedMap.get?, List.map_cons, List.mem_cons, ← ih]
      split_ifs with hkey
      · simp [hkey]
      · simp [Ne.symm hkey]

theorem eraseDups_concat (bodies : List Text) (body : Text) :
    (bodies ++ [body]).eraseDups =
      if body ∈ bodies then bodies.eraseDups else bodies.eraseDups ++ [body] := by
  rw [List.eraseDups_append]
  by_cases h : body ∈ bodies <;> simp [List.removeAll, List.eraseDups_cons, h]

/-- Merging into an empty sheet keeps each body where it is seen first. -/
theorem bodies_mergeAll_empty (rules : List GeneratedRule) :
    (empty.mergeAll rules).bodies = (rules.map GeneratedRule.body).eraseDups := by
  induction rules using List.reverseRecOn with
  | nil => rfl
  | append_singleton rules rule ih =>
      rw [mergeAll_append, mergeAll_cons, mergeAll_nil, bodies_merge, ih, List.map_append,
        List.map_singleton, eraseDups_concat]
      simp only [List.mem_eraseDups]

/-! ## Pairs -/

theorem addSelector_of_mem {selector : Text} {selectors : List Text} (h : selector ∈ selectors) :
    addSelector selector selectors = selectors := if_pos h

theorem addSelector_of_notMem {selector : Text} {selectors : List Text}
    (h : selector ∉ selectors) : addSelector selector selectors = selectors ++ [selector] := if_neg h

theorem mem_addSelector {selector other : Text} {selectors : List Text} :
    other ∈ addSelector selector selectors ↔ other ∈ selectors ∨ other = selector := by
  rw [addSelector]
  split_ifs with h
  · constructor
    · exact Or.inl
    · rintro (hother | rfl)
      · exact hother
      · exact h
  · simp

theorem nodup_addSelector {selector : Text} {selectors : List Text} (h : selectors.Nodup) :
    (addSelector selector selectors).Nodup := by
  rw [addSelector]
  split_ifs with hmem
  · exact h
  · exact List.nodup_append.2 ⟨h, List.nodup_singleton _, by
      rintro other hother _ hselector rfl
      exact hmem (List.mem_singleton.1 hselector ▸ hother)⟩

/-- A merge makes one pair. -/
theorem mem_pairs_merge {rule other : GeneratedRule} {sheet : Sheet} :
    other ∈ (sheet.merge rule).pairs ↔ other ∈ sheet.pairs ∨ other = rule := by
  obtain ⟨entries⟩ := sheet
  obtain ⟨body, selector⟩ := rule
  obtain ⟨otherBody, otherSelector⟩ := other
  simp only [pairs, merge, List.mem_flatMap, List.mem_map, GeneratedRule.mk.injEq]
  induction entries with
  | nil => simp [OrderedMap.alter, addSelector, and_comm, eq_comm]
  | cons entry rest ih =>
      obtain ⟨key, selectors⟩ := entry
      by_cases hkey : key = body
      · subst hkey
        simp only [OrderedMap.alter, if_true, List.mem_cons, exists_eq_or_imp,
          Option.getD_some]
        constructor
        · rintro (⟨s, hs, rfl, rfl⟩ | h)
          · rcases mem_addSelector.1 hs with hs | rfl
            · exact Or.inl (Or.inl ⟨s, hs, rfl, rfl⟩)
            · exact Or.inr ⟨rfl, rfl⟩
          · exact Or.inl (Or.inr h)
        · rintro ((⟨s, hs, rfl, rfl⟩ | h) | ⟨rfl, rfl⟩)
          · exact Or.inl ⟨s, mem_addSelector.2 (Or.inl hs), rfl, rfl⟩
          · exact Or.inr h
          · exact Or.inl ⟨_, mem_addSelector.2 (Or.inr rfl), rfl, rfl⟩
      · simp only [OrderedMap.alter, hkey, if_false, List.mem_cons, exists_eq_or_imp, ih,
          or_assoc]

theorem mem_pairs_mergeAll {rules : List GeneratedRule} {other : GeneratedRule} {sheet : Sheet} :
    other ∈ (sheet.mergeAll rules).pairs ↔ other ∈ sheet.pairs ∨ other ∈ rules := by
  induction rules generalizing sheet with
  | nil => simp
  | cons rule rules ih => rw [mergeAll_cons, ih, mem_pairs_merge, List.mem_cons, or_assoc]

/-- The selectors of an entry are those of rules with its body. -/
theorem mem_rules_of_mem_entries {rules : List GeneratedRule} {entry : Text × List Text}
    (h : entry ∈ (empty.mergeAll rules).entries) {selector : Text} (hselector : selector ∈ entry.2) :
    ⟨entry.1, selector⟩ ∈ rules := by
  have hpair : ⟨entry.1, selector⟩ ∈ (empty.mergeAll rules).pairs :=
    List.mem_flatMap.2 ⟨entry, h, List.mem_map_of_mem hselector⟩
  rwa [mem_pairs_mergeAll, pairs_empty, or_iff_right List.not_mem_nil] at hpair

/-- No body of a sheet and no selector of a body is repeated. -/
structure IsDistinct (sheet : Sheet) : Prop where
  bodies_nodup : sheet.bodies.Nodup
  selectors_nodup : ∀ entry ∈ sheet.entries, entry.2.Nodup

theorem isDistinct_empty : IsDistinct empty := ⟨List.nodup_nil, by simp [empty]⟩

theorem IsDistinct.merge {sheet : Sheet} (h : sheet.IsDistinct) (rule : GeneratedRule) :
    (sheet.merge rule).IsDistinct where
  bodies_nodup := by
    rw [bodies_merge]
    split_ifs with hmem
    · exact h.bodies_nodup
    · exact List.nodup_append.2 ⟨h.bodies_nodup, List.nodup_singleton _, by
        rintro other hother _ hbody rfl
        exact hmem (List.mem_singleton.1 hbody ▸ hother)⟩
  selectors_nodup := by
    intro entry hentry
    rcases OrderedMap.mem_alter hentry with hentry | heq | ⟨old, hold, heq⟩
    · exact h.selectors_nodup entry hentry
    · rw [heq]
      exact nodup_addSelector List.nodup_nil
    · rw [heq]
      exact nodup_addSelector (h.selectors_nodup _ hold)

theorem IsDistinct.mergeAll {sheet : Sheet} (h : sheet.IsDistinct) (rules : List GeneratedRule) :
    (sheet.mergeAll rules).IsDistinct := by
  induction rules generalizing sheet with
  | nil => exact h
  | cons rule rules ih => exact ih (h.merge rule)

/-- A sheet without repetitions holds each of its pairs once. -/
theorem IsDistinct.nodup_pairs {sheet : Sheet} (h : sheet.IsDistinct) : sheet.pairs.Nodup := by
  refine List.nodup_flatMap.2 ⟨?_, ?_⟩
  · intro entry hentry
    refine (h.selectors_nodup entry hentry).map ?_
    intro first second heq
    exact (GeneratedRule.mk.inj heq).2
  · refine (List.pairwise_map.1 h.bodies_nodup).imp ?_
    intro first second hne rule hfirst hsecond
    obtain ⟨_, -, rfl⟩ := List.mem_map.1 hfirst
    obtain ⟨_, -, heq⟩ := List.mem_map.1 hsecond
    exact hne (GeneratedRule.mk.inj heq).1.symm

/-! ## Merging again -/

theorem mem_selectors_merge {rule : GeneratedRule} {body selector : Text} {sheet : Sheet} :
    selector ∈ (sheet.merge rule).selectors body ↔
      selector ∈ sheet.selectors body ∨ ⟨body, selector⟩ = rule := by
  obtain ⟨body', selector'⟩ := rule
  rw [GeneratedRule.mk.injEq]
  by_cases hbody : body = body'
  · subst hbody
    rw [selectors_merge ⟨body, selector'⟩ sheet, mem_addSelector]
    simp
  · rw [@selectors_merge_of_ne ⟨body', selector'⟩ body hbody]
    simp [hbody]

theorem mem_selectors_mergeAll {rules : List GeneratedRule} {body selector : Text}
    {sheet : Sheet} :
    selector ∈ (sheet.mergeAll rules).selectors body ↔
      selector ∈ sheet.selectors body ∨ ⟨body, selector⟩ ∈ rules := by
  induction rules generalizing sheet with
  | nil => simp
  | cons rule rules ih => rw [mergeAll_cons, ih, mem_selectors_merge, List.mem_cons, or_assoc]

/-- Merging a rule that is there changes nothing. -/
theorem merge_of_mem_selectors {rule : GeneratedRule} {sheet : Sheet}
    (h : rule.selector ∈ sheet.selectors rule.body) : sheet.merge rule = sheet := by
  obtain ⟨entries⟩ := sheet
  rw [selectors] at h
  cases hget : OrderedMap.get? rule.body entries with
  | none =>
      rw [hget] at h
      exact absurd h List.not_mem_nil
  | some shared =>
      rw [hget, Option.getD_some] at h
      rw [merge, OrderedMap.alter_of_get? hget]
      rw [Option.getD_some, addSelector, if_pos h]

theorem mergeAll_of_mem_selectors {rules : List GeneratedRule} {sheet : Sheet}
    (h : ∀ rule ∈ rules, rule.selector ∈ sheet.selectors rule.body) :
    sheet.mergeAll rules = sheet := by
  induction rules with
  | nil => rfl
  | cons rule rules ih =>
      obtain ⟨hrule, hrules⟩ := List.forall_mem_cons.1 h
      rw [mergeAll_cons, merge_of_mem_selectors hrule, ih hrules]

/-- Rules that have been merged can be merged again without a change. -/
theorem mergeAll_mergeAll (rules : List GeneratedRule) (sheet : Sheet) :
    (sheet.mergeAll rules).mergeAll rules = sheet.mergeAll rules := by
  apply mergeAll_of_mem_selectors
  intro rule hrule
  exact mem_selectors_mergeAll.2 (Or.inr hrule)

end AtomicCss.Sheet
