import AtomicCss.Text.Blank
import Mathlib.Data.List.Infix

/-! # Trimmed texts

Trimming gives a part of the text that has no blank character at its two ends, and leaves such a
text as it is. Blanks that are put before or after a text make no difference to it. -/

namespace AtomicCss.Text

/-- A text whose first and last characters are not blank. -/
def IsTrimmed (text : Text) : Prop :=
  (∀ c ∈ text.head?, isBlank c = false) ∧ ∀ c ∈ text.getLast?, isBlank c = false

instance (text : Text) : Decidable (IsTrimmed text) :=
  @instDecidableAnd _ _ (Option.decidableForallMem text.head?)
    (Option.decidableForallMem text.getLast?)

theorem isTrimmed_nil : IsTrimmed [] := by
  constructor
  · intro c hc
    cases hc
  · intro c hc
    cases hc

theorem trimStart_of_head? {text : Text} (h : ∀ c ∈ text.head?, isBlank c = false) :
    trimStart text = text := by
  cases text with
  | nil => rfl
  | cons c rest => rw [trimStart, List.dropWhile_cons_of_neg (by simpa using h c rfl)]

theorem trimEnd_of_getLast? {text : Text} (h : ∀ c ∈ text.getLast?, isBlank c = false) :
    trimEnd text = text := by
  have hstart : trimStart text.reverse = text.reverse := by
    apply trimStart_of_head?
    intro c hc
    rw [List.head?_reverse] at hc
    exact h c hc
  rw [trimStart] at hstart
  rw [trimEnd, hstart, List.reverse_reverse]

theorem trim_of_isTrimmed {text : Text} (h : IsTrimmed text) : trim text = text := by
  rw [trim, trimStart_of_head? h.1, trimEnd_of_getLast? h.2]

theorem head?_trimStart (text : Text) : ∀ c ∈ (trimStart text).head?, isBlank c = false := by
  intro c hc
  have h := List.head?_dropWhile_not isBlank text
  have hhead : (text.dropWhile isBlank).head? = some c := hc
  rw [hhead] at h
  exact h

theorem getLast?_trimEnd (text : Text) : ∀ c ∈ (trimEnd text).getLast?, isBlank c = false := by
  intro c hc
  rw [trimEnd, List.getLast?_reverse] at hc
  exact head?_trimStart text.reverse c hc

theorem trimEnd_isPrefix (text : Text) : trimEnd text <+: text := by
  have h : text.reverse.dropWhile isBlank <:+ text.reverse := List.dropWhile_suffix isBlank
  simpa [trimEnd] using List.reverse_prefix.2 h

theorem trim_isInfix (text : Text) : trim text <:+: text :=
  (trimEnd_isPrefix (trimStart text)).isInfix.trans (List.dropWhile_suffix isBlank).isInfix

theorem isTrimmed_trim (text : Text) : IsTrimmed (trim text) := by
  refine ⟨?_, getLast?_trimEnd (trimStart text)⟩
  intro c hc
  obtain ⟨rest, hrest⟩ := trimEnd_isPrefix (trimStart text)
  apply head?_trimStart text c
  rw [← hrest, List.head?_append]
  exact Option.mem_def.2 (by rw [trim] at hc; rw [Option.mem_def.1 hc]; rfl)

/-! ## Blanks around a text -/

theorem trim_blank_append {lead : Text} (h : lead.all isBlank) (text : Text) :
    trim (lead ++ text) = trim text := by
  rw [trim, trimStart, List.dropWhile_append_of_pos (List.all_eq_true.1 h)]
  rfl

theorem trimEnd_append_blank {tail : Text} (h : tail.all isBlank) (text : Text) :
    trimEnd (text ++ tail) = trimEnd text := by
  have htail : ∀ c ∈ tail.reverse, isBlank c := fun c hc =>
    List.all_eq_true.1 h c (List.mem_reverse.1 hc)
  rw [trimEnd, List.reverse_append, List.dropWhile_append_of_pos htail]
  rfl

theorem trim_append_blank {tail : Text} (h : tail.all isBlank) (text : Text) :
    trim (text ++ tail) = trim text := by
  by_cases hblank : text.all isBlank
  · rw [trim_blank_append hblank, trim_eq_nil_iff.2 h, trim_eq_nil_iff.2 hblank]
  · have hne : (text.dropWhile isBlank).isEmpty = false := by
      rw [Bool.eq_false_iff]
      intro hempty
      exact hblank (trimStart_eq_nil_iff.1 (List.isEmpty_iff.1 hempty))
    rw [trim, trimStart, List.dropWhile_append, hne]
    exact trimEnd_append_blank h (trimStart text)

theorem notMem_of_blank {text : Text} {c : Char} (h : text.all isBlank)
    (hc : isBlank c = false) : c ∉ text := by
  intro hmem
  rw [List.all_eq_true.1 h c hmem] at hc
  cases hc

end AtomicCss.Text
