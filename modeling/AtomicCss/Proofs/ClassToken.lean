import AtomicCss.ClassToken
import Mathlib.Algebra.BigOperators.Fin
import Mathlib.Data.List.GetD
import Mathlib.Data.Nat.ModEq
import Mathlib.Tactic.Ring

/-! # What tokens tell apart

The word of a text is the value of a polynomial in the multiplier, modulo `2 ^ 32`. The token of the
text shows the word modulo `2 ^ 30`, in five fields, up to the two places at which the alphabet has
the symbol `0`. The multiplier is odd, so the words of texts that differ in one character differ in
these fields. -/

namespace AtomicCss.ClassToken

/-! ## Words -/

/-- The characters of a text as digits to the base of the multiplier, the last one lowest. -/
def digitSum (text : Text) : Nat :=
  ∑ i : Fin text.length, text[i].toNat * 311 ^ (text.length - 1 - i)

/-- The word of a text in unbounded integers. -/
def unboundedWord (text : Text) : Nat := 313 * 311 ^ text.length + digitSum text

theorem digitSum_cons (c : Char) (rest : Text) :
    digitSum (c :: rest) = c.toNat * 311 ^ rest.length + digitSum rest := by
  refine (Fin.sum_univ_succ (n := rest.length) _).trans ?_
  congr 1
  apply Fintype.sum_congr
  intro i
  have hexponent : rest.length - (i + 1) = rest.length - 1 - i := by omega
  exact congrArg (rest[i].toNat * 311 ^ ·) hexponent

/-- One character takes the word to the next value of Horner's scheme. -/
theorem toNat_step (w : UInt32) (c : Char) :
    (w * multiplier + c.val).toNat ≡ w.toNat * 311 + c.toNat [MOD 2 ^ 32] := by
  rw [UInt32.toNat_add, UInt32.toNat_mul]
  exact (Nat.mod_modEq _ _).trans ((Nat.mod_modEq _ _).add_right _)

/-- What a text makes of the word that stands before it. -/
theorem toNat_foldl (w : UInt32) (text : Text) :
    (text.foldl (fun w c => w * multiplier + c.val) w).toNat ≡
      w.toNat * 311 ^ text.length + digitSum text [MOD 2 ^ 32] := by
  induction text generalizing w with
  | nil => simp [digitSum, Nat.ModEq.refl]
  | cons c rest ih =>
      have hstep := ((toNat_step w c).mul_right (311 ^ rest.length)).add_right (digitSum rest)
      have hhorner : (w.toNat * 311 + c.toNat) * 311 ^ rest.length + digitSum rest =
          w.toNat * 311 ^ (c :: rest).length + digitSum (c :: rest) := by
        rw [digitSum_cons, List.length_cons]
        ring
      exact hhorner ▸ (ih _).trans hstep

theorem toNat_word (text : Text) : (word text).toNat = unboundedWord text % 2 ^ 32 := by
  rw [← Nat.mod_eq_of_lt (word text).toNat_lt]
  exact toNat_foldl seed text

/-- The words of two texts that differ in one character differ modulo `2 ^ 30`: powers of the odd
multiplier can be cancelled, and characters are smaller than the modulus. -/
theorem toNat_word_ne (front back : Text) {a b : Char} (h : a ≠ b) :
    (word (front ++ a :: back)).toNat % 2 ^ 30 ≠ (word (front ++ b :: back)).toNat % 2 ^ 30 := by
  intro hwords
  have hword (c : Char) : (word (front ++ c :: back)).toNat ≡
      (word front).toNat * 311 ^ (c :: back).length +
        (c.toNat * 311 ^ back.length + digitSum back) [MOD 2 ^ 30] := by
    rw [word, List.foldl_append, ← digitSum_cons]
    exact (toNat_foldl (word front) (c :: back)).of_dvd (by decide)
  have hsums := (hword a).symm.trans (Nat.ModEq.trans hwords (hword b))
  have hproducts : a.toNat * 311 ^ back.length ≡ b.toNat * 311 ^ back.length [MOD 2 ^ 30] :=
    (hsums.add_left_cancel' _).add_right_cancel' _
  have hcoprime : Nat.gcd (2 ^ 30) (311 ^ back.length) = 1 :=
    Nat.Coprime.pow_right _ (by decide)
  have hchars := Nat.ModEq.cancel_right_of_coprime hcoprime hproducts
  have hsmall (c : Char) : c.toNat < 2 ^ 30 := by
    have hvalid : c.toNat < 0xD800 ∨ 0xDFFF < c.toNat ∧ c.toNat < 0x110000 := c.valid
    omega
  exact h (Char.toNat_inj.1 (hchars.eq_of_lt_of_lt (hsmall a) (hsmall b)))

/-! ## Fields -/

theorem field_lt (w : UInt32) (offset : Nat) : field w offset < 64 :=
  Nat.mod_lt _ (by decide)

/-- The fields show a word modulo `2 ^ 30`. -/
theorem field_eq (w : UInt32) {offset : Nat} (h : offset ∈ offsets) :
    field w offset = (w.toNat % 2 ^ 30) >>> offset % 64 := by
  have hoffset : offset = 0 ∨ offset = 6 ∨ offset = 12 ∨ offset = 18 ∨ offset = 24 := by
    simpa [offsets] using h
  rw [field, Nat.shiftRight_eq_div_pow, Nat.shiftRight_eq_div_pow]
  rcases hoffset with rfl | rfl | rfl | rfl | rfl <;> omega

/-- Nothing of a word modulo `2 ^ 30` is missing in the fields. -/
theorem residue_eq_of_fields {v w : UInt32}
    (h : ∀ offset ∈ offsets, field v offset = field w offset) :
    v.toNat % 2 ^ 30 = w.toNat % 2 ^ 30 := by
  simp only [offsets, List.forall_mem_cons, field, Nat.shiftRight_eq_div_pow] at h
  omega

/-! ## Symbols -/

/-- The two values of a field that have the symbol `0`, in either order. -/
def AreZeros (m n : Nat) : Prop := (m = 0 ∧ n = 10) ∨ (m = 10 ∧ n = 0)

/-- Values of a field that have the same symbol. -/
def Alike (m n : Nat) : Prop := m = n ∨ AreZeros m n

theorem nodup_tail_alphabet : alphabet.tail.Nodup := by decide

theorem symbol_succ_inj {m n : Nat} (hm : m + 1 < 64) (hn : n + 1 < 64) :
    symbol (m + 1) = symbol (n + 1) ↔ m = n := by
  have hlength : alphabet.tail.length = 63 := rfl
  have hsymbol {k : Nat} (hk : k + 1 < 64) : symbol (k + 1) = alphabet.tail[k] :=
    List.getD_eq_getElem _ _ hk
  rw [hsymbol hm, hsymbol hn, nodup_tail_alphabet.getElem_inj_iff]

/-- The alphabet has the symbol `0` at the places 0 and 10, and every other symbol once. -/
theorem symbol_eq_iff {m n : Nat} (hm : m < 64) (hn : n < 64) :
    symbol m = symbol n ↔ Alike m n := by
  have hzero : symbol 0 = symbol (9 + 1) := rfl
  cases m with
  | zero =>
      cases n with
      | zero => simp [Alike]
      | succ n =>
          rw [hzero, symbol_succ_inj (by decide) hn, Alike, AreZeros]
          omega
  | succ m =>
      cases n with
      | zero =>
          rw [hzero, symbol_succ_inj hm (by decide), Alike, AreZeros]
          omega
      | succ n =>
          rw [symbol_succ_inj hm hn, Alike, AreZeros]
          omega

/-! ## Tokens -/

/-- The token depends on the word modulo `2 ^ 30` only. -/
theorem ofText_eq (text : Text) : ofText text = offsets.map fun offset =>
    symbol ((unboundedWord text % 2 ^ 30) >>> offset % 64) := by
  apply List.map_congr_left
  intro offset hoffset
  have hresidue : (word text).toNat % 2 ^ 30 = unboundedWord text % 2 ^ 30 := by
    rw [toNat_word]
    exact Nat.mod_mod_of_dvd _ (by decide)
  rw [field_eq _ hoffset, hresidue]

/-- Equal tokens have the same symbol in each field. -/
theorem ofText_eq_iff {first second : Text} :
    ofText first = ofText second ↔
      ∀ offset ∈ offsets, Alike (field (word first) offset) (field (word second) offset) := by
  rw [ofText, ofText, ofWord, ofWord, List.map_inj_left]
  exact forall₂_congr fun offset _ => symbol_eq_iff (field_lt _ offset) (field_lt _ offset)

/-- The word of a text is its value in unbounded integers modulo `2 ^ 32`. Its token has five
symbols and depends on that value modulo `2 ^ 30` only. Two texts have the same token exactly if in
each of the five fields their values are equal or are 0 and 10. Texts that differ in one character
differ modulo `2 ^ 30`, so that they have the same token only by fields that are 0 and 10. -/
theorem ofText_tells_words_apart :
    (∀ text, (word text).toNat = unboundedWord text % 2 ^ 32) ∧
      (∀ text, (ofText text).length = 5 ∧ ofText text = offsets.map fun offset =>
        symbol ((unboundedWord text % 2 ^ 30) >>> offset % 64)) ∧
      (∀ first second, ofText first = ofText second ↔
        ∀ offset ∈ offsets, Alike (field (word first) offset) (field (word second) offset)) ∧
      ∀ front back : Text, ∀ a b, a ≠ b →
        let first := front ++ a :: back
        let second := front ++ b :: back
        (word first).toNat % 2 ^ 30 ≠ (word second).toNat % 2 ^ 30 ∧
          (ofText first = ofText second →
            ∃ offset ∈ offsets, AreZeros (field (word first) offset) (field (word second) offset))
    := by
  refine ⟨toNat_word, fun text => ⟨length_ofText text, ofText_eq text⟩,
    fun first second => ofText_eq_iff, ?_⟩
  intro front back a b hne first second
  have hwords := toNat_word_ne front back hne
  refine ⟨hwords, fun htokens => ?_⟩
  by_contra hzeros
  push Not at hzeros
  apply hwords
  apply residue_eq_of_fields
  intro offset hoffset
  exact (ofText_eq_iff.1 htokens offset hoffset).resolve_right (hzeros offset hoffset)

/-- Two texts that differ in one character and have the same token: each has a zero where the other
one has a ten in three of the fields. -/
theorem rareLetter_shares_token :
    let first := "rrypx".toList
    let second := "rr\ufde3px".toList
    ofText first = "00p20".toList ∧ ofText second = ofText first ∧
      (word first).toNat % 2 ^ 30 ≠ (word second).toNat % 2 ^ 30 ∧
      ∃ offset ∈ offsets, AreZeros (field (word first) offset) (field (word second) offset) := by
  intro first second
  have htokens : ofText second = ofText first := by decide
  obtain ⟨hwords, hzeros⟩ :=
    ofText_tells_words_apart.2.2.2 "rr".toList "px".toList 'y' '\ufde3' (by decide)
  exact ⟨by decide, htokens, hwords, hzeros htokens.symm⟩

end AtomicCss.ClassToken
