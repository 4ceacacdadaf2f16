import AtomicCss.Text.Blank
import Mathlib.Data.List.TakeWhile
import Mathlib.Tactic.SplitIfs

/-! # The characters of texts

A repertoire is a set of characters that has all of ASCII, such as the characters that a charset can
write. The operations on texts bring no other characters in than those of the texts they are given. -/

namespace AtomicCss

/-- Joined texts have the characters of the parts and of the separator. -/
theorem Text.forall_mem_joinWith {p : Char → Prop} {separator : Text}
    (hseparator : ∀ c ∈ separator, p c) {parts : List Text}
    (h : ∀ part ∈ parts, ∀ c ∈ part, p c) : ∀ c ∈ joinWith separator parts, p c := by
  induction parts with
  | nil => exact List.forall_mem_nil p
  | cons part parts ih =>
      obtain ⟨hpart, hparts⟩ := List.forall_mem_cons.1 h
      cases parts with
      | nil => exact hpart
      | cons next parts =>
          rw [joinWith_cons_cons, List.forall_mem_append, List.forall_mem_append]
          exact ⟨⟨hpart, hseparator⟩, ih hparts⟩

/-- Replacing a part brings in the characters of the replacement. -/
theorem Text.forall_mem_replaceFirst {p : Char → Prop} {text : Text} (h : ∀ c ∈ text, p c)
    (pattern : Text) {replacement : Text} (hreplacement : ∀ c ∈ replacement, p c) :
    ∀ c ∈ replaceFirst pattern replacement text, p c := by
  rw [replaceFirst]
  cases haround : around pattern text with
  | none => exact h
  | some parts =>
      obtain ⟨before, after⟩ := parts
      rw [eq_of_around haround, List.forall_mem_append, List.forall_mem_append] at h
      obtain ⟨⟨hbefore, -⟩, hafter⟩ := h
      rw [List.forall_mem_append, List.forall_mem_append]
      exact ⟨⟨hbefore, hreplacement⟩, hafter⟩

/-- A set of characters with all of ASCII. -/
structure Repertoire where
  has : Char → Prop
  ascii : ∀ c, c.toNat < 0x80 → has c

namespace Repertoire

/-- Every character of a text is in a repertoire. -/
def Spells (repertoire : Repertoire) (text : Text) : Prop := ∀ c ∈ text, repertoire.has c

variable {repertoire : Repertoire} {text first second : Text}

@[simp]
theorem spells_nil : repertoire.Spells [] := by
  intro c hc
  exact absurd hc List.not_mem_nil

@[simp]
theorem spells_cons {c : Char} :
    repertoire.Spells (c :: text) ↔ repertoire.has c ∧ repertoire.Spells text :=
  List.forall_mem_cons

@[simp]
theorem spells_append :
    repertoire.Spells (first ++ second) ↔ repertoire.Spells first ∧ repertoire.Spells second :=
  List.forall_mem_append

theorem Spells.subset (h : repertoire.Spells second) (hsubset : first ⊆ second) :
    repertoire.Spells first := fun c hc => h c (hsubset hc)

theorem spells_of_all_ascii (h : text.all fun c => c.toNat < 0x80) : repertoire.Spells text := by
  intro c hc
  exact repertoire.ascii c (of_decide_eq_true (List.all_eq_true.1 h c hc))

/-- A literal of ASCII characters. -/
theorem spells_toList {literal : String} (hliteral : literal = String.ofList text)
    (h : text.all fun c => c.toNat < 0x80) : repertoire.Spells literal.toList := by
  rw [hliteral, String.toList_ofList]
  exact spells_of_all_ascii h

/-! ## Parts of a text -/

theorem Spells.takeWhile (h : repertoire.Spells text) (p : Char → Bool) :
    repertoire.Spells (text.takeWhile p) := h.subset (List.takeWhile_subset p)

theorem Spells.dropWhile (h : repertoire.Spells text) (p : Char → Bool) :
    repertoire.Spells (text.dropWhile p) := h.subset (List.dropWhile_suffix p).subset

theorem Spells.drop (h : repertoire.Spells text) (n : Nat) : repertoire.Spells (text.drop n) :=
  h.subset (List.drop_subset n text)

theorem Spells.cut (h : repertoire.Spells text) (c : Char) :
    repertoire.Spells (Text.cut c text).1 ∧
      ∀ after ∈ (Text.cut c text).2, repertoire.Spells after := by
  rw [Text.cut_eq c text] at h
  rcases hcut : Text.cut c text with ⟨before, _ | after⟩
  · rw [hcut] at h
    exact ⟨h, nofun⟩
  · rw [hcut] at h
    obtain ⟨hbefore, hafter⟩ := spells_append.1 h
    refine ⟨hbefore, ?_⟩
    rintro _ ⟨⟩
    exact (spells_cons.1 hafter).2

/-! ## Texts put together -/

theorem spells_joinWith {separator : Text} (hseparator : repertoire.Spells separator)
    {parts : List Text} (h : ∀ part ∈ parts, repertoire.Spells part) :
    repertoire.Spells (Text.joinWith separator parts) :=
  Text.forall_mem_joinWith hseparator h

theorem spells_flatMap {α : Type} {items : List α} {f : α → Text}
    (h : ∀ item ∈ items, repertoire.Spells (f item)) : repertoire.Spells (items.flatMap f) := by
  intro c hc
  obtain ⟨item, hitem, hc⟩ := List.mem_flatMap.1 hc
  exact h item hitem c hc

theorem Spells.replaceFirst (h : repertoire.Spells text) (pattern : Text) {replacement : Text}
    (hreplacement : repertoire.Spells replacement) :
    repertoire.Spells (Text.replaceFirst pattern replacement text) :=
  Text.forall_mem_replaceFirst h pattern hreplacement

/-! ## Letters -/

theorem toLower_ascii_or_eq (c : Char) : c.toLower.toNat < 0x80 ∨ c.toLower = c := by
  delta Char.toLower
  split_ifs with hupper
  · left
    have hsum : (c.val + ('a'.val - 'A'.val)).toNat < 0x80 := by
      have hle : c.val.toNat ≤ 90 := UInt32.le_iff_toNat_le.1 hupper.2
      have hshift : ('a'.val - 'A'.val).toNat = 32 := rfl
      rw [UInt32.toNat_add]
      omega
    exact hsum
  · exact Or.inr rfl

theorem Spells.lowercase (h : repertoire.Spells text) : repertoire.Spells text.lowercase := by
  intro c hc
  obtain ⟨d, hd, rfl⟩ := List.mem_map.1 hc
  rcases toLower_ascii_or_eq d with hascii | heq
  · exact repertoire.ascii _ hascii
  · rw [heq]
    exact h d hd

end Repertoire
end AtomicCss
