import AtomicCss.Logged

/-! # Values and failures

What a changed outcome says about the outcome that was changed. -/

namespace AtomicCss.Outcome

variable {ε δ α β : Type}

theorem map_eq_ok_iff {f : α → β} {x : Except ε α} {b : β} :
    x.map f = .ok b ↔ ∃ a, x = .ok a ∧ f a = b := by
  cases x <;> simp [Except.map]

theorem map_eq_error_iff {f : α → β} {x : Except ε α} {e : ε} :
    x.map f = .error e ↔ x = .error e := by
  cases x <;> simp [Except.map]

theorem toOption_eq_some_iff {x : Except ε α} {a : α} : x.toOption = some a ↔ x = .ok a := by
  cases x <;> simp [Except.toOption]

theorem mapError_eq_ok_iff {f : ε → δ} {x : Except ε α} {a : α} :
    x.mapError f = .ok a ↔ x = .ok a := by
  cases x with
  | error e =>
      constructor
      · intro h
        exact nomatch h
      · intro h
        exact nomatch h
  | ok b =>
      constructor
      · intro h
        exact congrArg Except.ok (Except.ok.inj h)
      · intro h
        exact congrArg Except.ok (Except.ok.inj h)

theorem mapError_eq_error_iff {f : ε → δ} {x : Except ε α} {e : δ} :
    x.mapError f = .error e ↔ ∃ d, x = .error d ∧ f d = e := by
  cases x with
  | error d =>
      constructor
      · intro h
        exact ⟨d, rfl, Except.error.inj h⟩
      · rintro ⟨d', hd, rfl⟩
        cases hd
        rfl
  | ok b =>
      constructor
      · intro h
        exact nomatch h
      · rintro ⟨d, hd, -⟩
        exact nomatch hd

end AtomicCss.Outcome
