import AtomicCss.Notice

/-! # Outcomes with notices

A computation that gives notices and then a value or a failure. The notices given before a
failure are kept. -/

namespace AtomicCss

/-- Notices in the order in which they were given, and a value or a failure. -/
structure Logged (ε α : Type) where
  notices : List Notice
  outcome : Except ε α

namespace Logged

variable {ε δ α β γ : Type}

/-- A value without notices. -/
def ok (a : α) : Logged ε α := ⟨[], .ok a⟩

/-- A failure without notices. -/
def fail (e : ε) : Logged ε α := ⟨[], .error e⟩

/-- Gives notices. -/
def tell (notices : List Notice) : Logged ε Unit := ⟨notices, .ok ()⟩

/-- Goes on with the value; after a failure nothing more happens. -/
def andThen (x : Logged ε α) (f : α → Logged ε β) : Logged ε β :=
  match x.outcome with
  | .error e => ⟨x.notices, .error e⟩
  | .ok a => ⟨x.notices ++ (f a).notices, (f a).outcome⟩

/-- Changes the value. -/
def map (f : α → β) (x : Logged ε α) : Logged ε β := ⟨x.notices, x.outcome.map f⟩

/-- Changes the failure. -/
def mapError (f : ε → δ) (x : Logged ε α) : Logged δ α := ⟨x.notices, x.outcome.mapError f⟩

instance : Monad (Logged ε) where
  pure := ok
  bind := andThen

@[simp]
theorem andThen_ok (a : α) (f : α → Logged ε β) : (ok a).andThen f = f a := rfl

@[simp]
theorem andThen_fail (e : ε) (f : α → Logged ε β) : (fail e : Logged ε α).andThen f = fail e := rfl

@[simp]
theorem outcome_ok (a : α) : (ok a : Logged ε α).outcome = .ok a := rfl

@[simp]
theorem outcome_fail (e : ε) : (fail e : Logged ε α).outcome = .error e := rfl

@[simp]
theorem outcome_map (f : α → β) (x : Logged ε α) : (x.map f).outcome = x.outcome.map f := rfl

@[simp]
theorem outcome_mapError (f : ε → δ) (x : Logged ε α) :
    (x.mapError f).outcome = x.outcome.mapError f := rfl

@[simp]
theorem outcome_andThen (x : Logged ε α) (f : α → Logged ε β) :
    (x.andThen f).outcome = x.outcome.bind fun a => (f a).outcome := by
  rcases x with ⟨log, _ | a⟩ <;> rfl

theorem andThen_assoc (x : Logged ε α) (f : α → Logged ε β) (g : β → Logged ε γ) :
    (x.andThen f).andThen g = x.andThen fun a => (f a).andThen g := by
  rcases x with ⟨log, _ | a⟩
  · rfl
  · simp only [andThen]
    rcases hf : f a with ⟨log', _ | b⟩ <;> simp

theorem andThen_of_error {x : Logged ε α} {e : ε} (h : x.outcome = .error e)
    (f : α → Logged ε β) : x.andThen f = ⟨x.notices, .error e⟩ := by
  rw [andThen, h]

theorem andThen_of_ok {x : Logged ε α} {a : α} (h : x.outcome = .ok a) (f : α → Logged ε β) :
    x.andThen f = ⟨x.notices ++ (f a).notices, (f a).outcome⟩ := by
  rw [andThen, h]

/-- Only a value that is reached matters for what follows. -/
theorem andThen_congr {x : Logged ε α} {f g : α → Logged ε β}
    (h : ∀ a, x.outcome = .ok a → f a = g a) : x.andThen f = x.andThen g := by
  rcases x with ⟨log, _ | a⟩
  · rfl
  · simp only [andThen, h a rfl]

/-! ## Changes before and after a step -/

theorem map_id (x : Logged ε α) : (x.map fun a => a) = x := by
  rcases x with ⟨log, _ | a⟩ <;> rfl

theorem map_map (f : α → β) (g : β → γ) (x : Logged ε α) :
    (x.map f).map g = x.map fun a => g (f a) := by
  rcases x with ⟨log, _ | a⟩ <;> rfl

theorem andThen_map (x : Logged ε α) (f : α → β) (g : β → Logged ε γ) :
    (x.map f).andThen g = x.andThen fun a => g (f a) := by
  rcases x with ⟨log, _ | a⟩ <;> rfl

theorem map_andThen (x : Logged ε α) (f : α → Logged ε β) (g : β → γ) :
    (x.andThen f).map g = x.andThen fun a => (f a).map g := by
  rcases x with ⟨log, _ | a⟩ <;> rfl

theorem mapError_mapError {ζ : Type} (f : ε → δ) (g : δ → ζ) (x : Logged ε α) :
    (x.mapError f).mapError g = x.mapError fun e => g (f e) := by
  rcases x with ⟨log, _ | a⟩ <;> rfl

theorem mapError_map (f : ε → δ) (g : α → β) (x : Logged ε α) :
    (x.map g).mapError f = (x.mapError f).map g := by
  rcases x with ⟨log, _ | a⟩ <;> rfl

theorem mapError_andThen (f : ε → δ) (x : Logged ε α) (g : α → Logged ε β) :
    (x.andThen g).mapError f = (x.mapError f).andThen fun a => (g a).mapError f := by
  rcases x with ⟨log, _ | a⟩ <;> rfl

end Logged
end AtomicCss
