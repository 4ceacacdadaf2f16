import AtomicCss.Text.Basic
import Mathlib.Data.List.Infix
import Mathlib.Tactic.SplitIfs

/-! # Occurrences

Looking for a pattern finds its first occurrence, and nothing exactly if there is none. A character
that a pattern does not have parts its occurrences: each of them lies on one side. -/

namespace AtomicCss.Text

variable {pattern text before after : Text}

/-! ## The first occurrence -/

/-- Nothing is found exactly if the pattern does not occur. -/
theorem around_eq_none_iff : around pattern text = none ↔ ¬pattern <:+: text := by
  induction text with
  | nil => simp [around]
  | cons c text ih =>
      rw [around, List.infix_cons_iff, ← List.isPrefixOf_iff_prefix]
      cases pattern.isPrefixOf (c :: text) <;> simp [ih]

/-- No occurrence starts before the one that is found. -/
theorem length_le_of_around (h : around pattern text = some (before, after))
    {before' after' : Text} (hother : text = before' ++ pattern ++ after') :
    before.length ≤ before'.length := by
  induction text generalizing before before' with
  | nil =>
      rw [around] at h
      split_ifs at h
      cases h
      exact Nat.zero_le _
  | cons c text ih =>
      rw [around] at h
      split_ifs at h with hprefix
      · cases h
        exact Nat.zero_le _
      · obtain ⟨⟨before, after⟩, haround, heq⟩ := Option.map_eq_some_iff.1 h
        cases heq
        cases before' with
        | nil =>
            have hpattern : pattern <+: c :: text := ⟨after', by rw [hother, List.nil_append]⟩
            exact absurd (List.isPrefixOf_iff_prefix.2 hpattern) hprefix
        | cons d before' =>
            have htext : text = before' ++ pattern ++ after' := (List.cons.inj hother).2
            exact Nat.succ_le_succ (ih haround htext)

/-- The first occurrence of a pattern that a text starts with is the one at its start. -/
theorem replaceFirst_append (h : pattern ≠ []) (replacement rest : Text) :
    replaceFirst pattern replacement (pattern ++ rest) = replacement ++ rest := by
  cases pattern with
  | nil => exact absurd rfl h
  | cons c pattern => simp [replaceFirst, around]

/-! ## Separators -/

section

variable {c : Char}

theorem prefix_append_cons_iff (hc : c ∉ pattern) :
    pattern <+: before ++ c :: after ↔ pattern <+: before := by
  constructor
  · intro h
    have hbefore : before ++ [c] <+: before ++ c :: after := ⟨after, by simp⟩
    rcases List.prefix_or_prefix_of_prefix h hbefore with h | h
    · rcases List.prefix_concat_iff.1 h with rfl | h
      · exact absurd (by simp) hc
      · exact h
    · exact absurd (h.subset (by simp)) hc
  · exact fun h => h.trans (List.prefix_append _ _)

/-- No occurrence of a pattern goes across a character that it does not have. -/
theorem infix_append_cons_iff (hc : c ∉ pattern) :
    pattern <:+: before ++ c :: after ↔ pattern <:+: before ∨ pattern <:+: after := by
  induction before with
  | nil =>
      have hprefix : pattern <+: [] ++ c :: after ↔ pattern <+: [] := prefix_append_cons_iff hc
      rw [List.nil_append] at hprefix ⊢
      rw [List.infix_cons_iff, hprefix, List.prefix_nil, List.infix_nil]
  | cons d before ih =>
      have hprefix : pattern <+: d :: before ++ c :: after ↔ pattern <+: d :: before :=
        prefix_append_cons_iff hc
      rw [List.cons_append] at hprefix ⊢
      rw [List.infix_cons_iff, List.infix_cons_iff, hprefix, ih, or_assoc]

theorem around_append_cons (hc : c ∉ pattern) (h : ¬pattern <:+: before) :
    around pattern (before ++ c :: after) =
      (around pattern after).map fun found => (before ++ c :: found.1, found.2) := by
  induction before with
  | nil =>
      have hprefix : ¬pattern <+: [] ++ c :: after := by
        rw [prefix_append_cons_iff hc]
        exact fun hnil => h hnil.isInfix
      rw [List.nil_append, ← List.isPrefixOf_iff_prefix] at hprefix
      rw [List.nil_append, around, if_neg hprefix]
      rfl
  | cons d before ih =>
      rw [List.infix_cons_iff, not_or] at h
      have hprefix : ¬pattern <+: d :: before ++ c :: after := by
        rw [prefix_append_cons_iff hc]
        exact h.1
      rw [List.cons_append, ← List.isPrefixOf_iff_prefix] at hprefix
      rw [List.cons_append, around, if_neg hprefix, ih h.2, Option.map_map]
      rfl

/-- What comes before such a character is left as it is if the pattern does not occur there. -/
theorem replaceFirst_append_cons (hc : c ∉ pattern) (h : ¬pattern <:+: before)
    (replacement : Text) :
    replaceFirst pattern replacement (before ++ c :: after) =
      before ++ c :: replaceFirst pattern replacement after := by
  rw [replaceFirst, around_append_cons hc h, replaceFirst]
  cases around pattern after <;> simp

end

section

variable {separator : Text}

theorem infix_surround_iff (hne : separator ≠ []) (hseparator : ∀ c ∈ separator, c ∉ pattern) :
    pattern <:+: before ++ separator ++ after ↔ pattern <:+: before ∨ pattern <:+: after := by
  induction separator generalizing before with
  | nil => exact absurd rfl hne
  | cons c separator ih =>
      obtain ⟨hc, hseparator⟩ := List.forall_mem_cons.1 hseparator
      rw [List.append_assoc, List.cons_append, infix_append_cons_iff hc]
      cases separator with
      | nil => rfl
      | cons d separator =>
          have hrest : pattern <:+: [] ++ d :: separator ++ after ↔
              pattern <:+: [] ∨ pattern <:+: after := ih (List.cons_ne_nil _ _) hseparator
          rw [List.nil_append] at hrest
          have hempty : pattern = [] → pattern <:+: before := by
            rintro rfl
            exact List.nil_infix
          rw [hrest, List.infix_nil, ← or_assoc, or_iff_left_of_imp hempty]

/-- A pattern occurs in joined texts exactly if it occurs in one of them. -/
theorem infix_joinWith_iff (hpattern : pattern ≠ []) (hne : separator ≠ [])
    (hseparator : ∀ c ∈ separator, c ∉ pattern) {parts : List Text} :
    pattern <:+: joinWith separator parts ↔ ∃ part ∈ parts, pattern <:+: part := by
  induction parts with
  | nil => simpa using hpattern
  | cons part parts ih =>
      cases parts with
      | nil => simp
      | cons next parts =>
          rw [joinWith_cons_cons, infix_surround_iff hne hseparator, ih,
            List.exists_mem_cons_iff (l := next :: parts)]

end

end AtomicCss.Text
