import AtomicCss.Text.Basic

/-! # Ordered maps

A map from names that remembers the order in which the names were first put in. Putting a name
again changes its value and keeps its place. -/

namespace AtomicCss

/-- Names with their values, in order. -/
abbrev OrderedMap (α : Type) := List (Text × α)

namespace OrderedMap

variable {α : Type}

/-- The value of a name. -/
def get? (name : Text) : OrderedMap α → Option α
  | [] => none
  | (key, value) :: rest => if key = name then some value else get? name rest

/-- Whether a name has a value. -/
def has (name : Text) (entries : OrderedMap α) : Bool := (get? name entries).isSome

/-- Changes the value of a name that is there, and puts a new one last. -/
def alter (name : Text) (f : Option α → α) : OrderedMap α → OrderedMap α
  | [] => [(name, f none)]
  | (key, value) :: rest =>
      if key = name then (key, f (some value)) :: rest else (key, value) :: alter name f rest

/-- Gives a name a value. -/
def set (name : Text) (value : α) (entries : OrderedMap α) : OrderedMap α :=
  alter name (fun _ => value) entries

/-- Takes a name out. -/
def erase (name : Text) (entries : OrderedMap α) : OrderedMap α :=
  entries.filter fun (key, _) => key ≠ name

/-- The map in which each pair has been set after those before it. -/
def ofPairs (pairs : List (Text × α)) : OrderedMap α :=
  pairs.foldl (fun entries (name, value) => set name value entries) []

/-- The names in order. -/
def names (entries : OrderedMap α) : List Text := entries.map Prod.fst

theorem get?_alter_self (name : Text) (f : Option α → α) (entries : OrderedMap α) :
    get? name (alter name f entries) = some (f (get? name entries)) := by
  induction entries with
  | nil => simp [alter, get?]
  | cons entry rest ih =>
      obtain ⟨key, value⟩ := entry
      by_cases h : key = name <;> simp [alter, get?, h, ih]

theorem get?_alter_of_ne {name other : Text} (h : other ≠ name) (f : Option α → α)
    (entries : OrderedMap α) : get? other (alter name f entries) = get? other entries := by
  induction entries with
  | nil => simp [alter, get?, Ne.symm h]
  | cons entry rest ih =>
      obtain ⟨key, value⟩ := entry
      by_cases hk : key = name
      · simp [alter, get?, hk, Ne.symm h]
      · simp [alter, get?, hk, ih]

theorem alter_of_get? {name : Text} {value : α} {f : Option α → α} {entries : OrderedMap α}
    (h : get? name entries = some value) (hf : f (some value) = value) :
    alter name f entries = entries := by
  induction entries with
  | nil => cases h
  | cons entry rest ih =>
      obtain ⟨key, other⟩ := entry
      rw [get?] at h
      rw [alter]
      split at h
      · rw [if_pos ‹_›, Option.some.inj h, hf]
      · rw [if_neg ‹_›, ih h]

theorem get?_erase_of_ne {name other : Text} (h : other ≠ name) (entries : OrderedMap α) :
    get? other (erase name entries) = get? other entries := by
  induction entries with
  | nil => rfl
  | cons entry rest ih =>
      obtain ⟨key, value⟩ := entry
      simp only [erase] at ih
      by_cases hk : key = name
      · simp [erase, get?, hk, Ne.symm h, ← ih]
      · simp [erase, get?, hk, ← ih]

theorem mem_of_get? {name : Text} {value : α} {entries : OrderedMap α}
    (h : get? name entries = some value) : (name, value) ∈ entries := by
  induction entries with
  | nil => cases h
  | cons entry rest ih =>
      obtain ⟨key, other⟩ := entry
      rw [get?] at h
      split at h
      · rename_i hkey
        rw [hkey, Option.some.inj h]
        exact List.mem_cons_self
      · exact List.mem_cons_of_mem _ (ih h)

theorem names_alter (name : Text) (f : Option α → α) (entries : OrderedMap α) :
    names (alter name f entries) =
      if name ∈ names entries then names entries else names entries ++ [name] := by
  induction entries with
  | nil => simp [alter, names]
  | cons entry rest ih =>
      obtain ⟨key, value⟩ := entry
      by_cases hk : key = name
      · simp [alter, names, hk]
      · simp only [names] at ih
        simp only [alter, hk, if_false, names, List.map_cons, ih, List.mem_cons, Ne.symm hk,
          false_or]
        split <;> rename_i hm <;> simp [hm]

/-- What holds of every entry holds after a change if it holds of the entry that is changed. -/
theorem forall_mem_alter {p : Text × α → Prop} {name : Text} {f : Option α → α}
    {entries : OrderedMap α} (h : ∀ entry ∈ entries, p entry) (hnew : p (name, f none))
    (hchanged : ∀ value, p (name, value) → p (name, f (some value))) :
    ∀ entry ∈ alter name f entries, p entry := by
  induction entries with
  | nil => simpa [alter] using hnew
  | cons first rest ih =>
      obtain ⟨key, value⟩ := first
      obtain ⟨hfirst, hrest⟩ := List.forall_mem_cons.1 h
      rw [alter]
      split
      · rename_i hkey
        subst hkey
        exact List.forall_mem_cons.2 ⟨hchanged value hfirst, hrest⟩
      · exact List.forall_mem_cons.2 ⟨hfirst, ih hrest⟩

end OrderedMap
end AtomicCss
