import AtomicCss.Proofs.Sheet.Pairs

/-! # Sheets up to order

Which bodies a sheet has, and which selectors each of them has, does not depend on the order in which
rules are merged into it. Only the order of the entries and of their selectors does. -/

namespace AtomicCss.Sheet

/-- Two sheets with the same bodies, and with the same selectors for each body, perhaps in another
order. -/
structure SameRules (first second : Sheet) : Prop where
  bodies : first.bodies.Perm second.bodies
  selectors : ∀ body, (first.selectors body).Perm (second.selectors body)

namespace SameRules

variable {first second third : Sheet}

theorem refl (sheet : Sheet) : sheet.SameRules sheet :=
  ⟨.refl _, fun _ => .refl _⟩

theorem trans (hfirst : first.SameRules second) (hsecond : second.SameRules third) :
    first.SameRules third :=
  ⟨hfirst.bodies.trans hsecond.bodies,
    fun body => (hfirst.selectors body).trans (hsecond.selectors body)⟩

end SameRules

/-! ## Putting in what is missing -/

theorem perm_addSelector {selectors others : List Text} (h : selectors.Perm others)
    (selector : Text) : (addSelector selector selectors).Perm (addSelector selector others) := by
  by_cases hmem : selector ∈ selectors
  · rwa [addSelector_of_mem hmem, addSelector_of_mem (h.mem_iff.1 hmem)]
  · rw [addSelector_of_notMem hmem, addSelector_of_notMem (mt h.mem_iff.2 hmem)]
    exact h.append_right [selector]

/-- It makes no difference up to order which of two selectors is put in first. -/
theorem perm_addSelector_addSelector (first second : Text) (selectors : List Text) :
    (addSelector second (addSelector first selectors)).Perm
      (addSelector first (addSelector second selectors)) := by
  by_cases hsame : first = second
  · rw [hsame]
  by_cases hfirst : first ∈ selectors
  · have hfirst' : first ∈ addSelector second selectors := mem_addSelector.2 (Or.inl hfirst)
    rw [addSelector_of_mem hfirst, addSelector_of_mem hfirst']
  by_cases hsecond : second ∈ selectors
  · have hsecond' : second ∈ addSelector first selectors := mem_addSelector.2 (Or.inl hsecond)
    rw [addSelector_of_mem hsecond, addSelector_of_mem hsecond']
  · -- both are new, and stand at the end in the order in which they came
    have hfirst' : first ∉ selectors ++ [second] := by simp [hfirst, hsame]
    have hsecond' : second ∉ selectors ++ [first] := by simp [hsecond, Ne.symm hsame]
    rw [addSelector_of_notMem hfirst, addSelector_of_notMem hsecond,
      addSelector_of_notMem hfirst', addSelector_of_notMem hsecond', List.append_assoc,
      List.append_assoc]
    exact (List.Perm.swap second first []).append_left selectors

/-! ## Merging -/

theorem bodies_merge_eq_addSelector (rule : GeneratedRule) (sheet : Sheet) :
    (sheet.merge rule).bodies = addSelector rule.body sheet.bodies :=
  bodies_merge rule sheet

theorem selectors_merge_eq (rule : GeneratedRule) (sheet : Sheet) (body : Text) :
    (sheet.merge rule).selectors body =
      if body = rule.body then addSelector rule.selector (sheet.selectors body)
      else sheet.selectors body := by
  split_ifs with hbody
  · rw [hbody, selectors_merge]
  · exact selectors_merge_of_ne hbody sheet

variable {first second : Sheet}

theorem SameRules.merge (h : first.SameRules second) (rule : GeneratedRule) :
    (first.merge rule).SameRules (second.merge rule) where
  bodies := by
    rw [bodies_merge_eq_addSelector, bodies_merge_eq_addSelector]
    exact perm_addSelector h.bodies rule.body
  selectors := by
    intro body
    rw [selectors_merge_eq, selectors_merge_eq]
    split_ifs
    · exact perm_addSelector (h.selectors body) rule.selector
    · exact h.selectors body

/-- Two rules can be merged in either order. -/
theorem sameRules_merge_merge (rule other : GeneratedRule) (sheet : Sheet) :
    ((sheet.merge rule).merge other).SameRules ((sheet.merge other).merge rule) where
  bodies := by
    simp only [bodies_merge_eq_addSelector]
    exact perm_addSelector_addSelector rule.body other.body sheet.bodies
  selectors := by
    intro body
    simp only [selectors_merge_eq]
    split_ifs
    · exact perm_addSelector_addSelector rule.selector other.selector _
    · exact .refl _
    · exact .refl _
    · exact .refl _

theorem SameRules.mergeAll (h : first.SameRules second) (rules : List GeneratedRule) :
    (first.mergeAll rules).SameRules (second.mergeAll rules) := by
  induction rules generalizing first second with
  | nil => exact h
  | cons rule rules ih => exact ih (h.merge rule)

/-- The order in which rules are merged makes no difference up to the order of what the sheet
holds. -/
theorem sameRules_mergeAll_of_perm {rules others : List GeneratedRule} (h : rules.Perm others)
    (sheet : Sheet) : (sheet.mergeAll rules).SameRules (sheet.mergeAll others) := by
  induction h generalizing sheet with
  | nil => exact .refl sheet
  | cons rule hrest ih => exact ih (sheet.merge rule)
  | swap rule other rest => exact (sameRules_merge_merge other rule sheet).mergeAll rest
  | trans hfirst hsecond ihfirst ihsecond => exact (ihfirst sheet).trans (ihsecond sheet)

end AtomicCss.Sheet
