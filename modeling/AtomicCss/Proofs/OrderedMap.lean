import AtomicCss.OrderedMap
import Mathlib.Data.List.Nodup
import Mathlib.Tactic.SplitIfs

/-! # Changes of ordered maps

A change of one value keeps every other entry and their order. A change of all values keeps the
names, and can be exchanged with changes of one value. -/

namespace AtomicCss.OrderedMap

variable {α β : Type} {name : Text} {entries : OrderedMap α}

/-! ## One value -/

/-- An entry after a change was there before, or it is the one that is changed or put in. -/
theorem mem_alter {f : Option α → α} {entry : Text × α} (h : entry ∈ alter name f entries) :
    entry ∈ entries ∨ entry = (name, f none) ∨
      ∃ old, (name, old) ∈ entries ∧ entry = (name, f (some old)) := by
  induction entries with
  | nil => exact Or.inr (Or.inl (List.mem_singleton.1 h))
  | cons first rest ih =>
      obtain ⟨key, value⟩ := first
      rw [alter] at h
      split_ifs at h with hkey
      · subst hkey
        rcases List.mem_cons.1 h with rfl | h
        · exact Or.inr (Or.inr ⟨value, List.mem_cons_self, rfl⟩)
        · exact Or.inl (List.mem_cons_of_mem _ h)
      · rcases List.mem_cons.1 h with rfl | h
        · exact Or.inl List.mem_cons_self
        · rcases ih h with h | h | ⟨old, hold, h⟩
          · exact Or.inl (List.mem_cons_of_mem _ h)
          · exact Or.inr (Or.inl h)
          · exact Or.inr (Or.inr ⟨old, List.mem_cons_of_mem _ hold, h⟩)

/-- Setting a name changes no other entry. -/
theorem mem_set {value : α} {entry : Text × α} (h : entry ∈ set name value entries) :
    entry ∈ entries ∨ entry = (name, value) := by
  rcases mem_alter h with h | h | ⟨_, -, h⟩
  · exact Or.inl h
  · exact Or.inr h
  · exact Or.inr h

/-- A change of a value is not seen by those who do not look at its name. -/
theorem filter_alter {p : Text × α → Bool} (h : ∀ value, p (name, value) = false)
    (f : Option α → α) : (alter name f entries).filter p = entries.filter p := by
  induction entries with
  | nil => simp [alter, h]
  | cons entry rest ih =>
      obtain ⟨key, value⟩ := entry
      rw [alter]
      split_ifs with hkey
      · subst hkey
        rw [List.filter_cons_of_neg (by simp [h]), List.filter_cons_of_neg (by simp [h])]
      · rw [List.filter_cons, List.filter_cons, ih]

theorem filter_erase {p : Text × α → Bool} (h : ∀ value, p (name, value) = false) :
    (erase name entries).filter p = entries.filter p := by
  rw [erase, List.filter_filter]
  apply List.filter_congr
  rintro ⟨key, value⟩ -
  by_cases hkey : key = name
  · simp [hkey, h]
  · simp [hkey]

theorem get?_erase_self (name : Text) (entries : OrderedMap α) :
    get? name (erase name entries) = none := by
  induction entries with
  | nil => rfl
  | cons entry rest ih =>
      obtain ⟨key, value⟩ := entry
      rw [erase] at ih ⊢
      by_cases hkey : key = name
      · rwa [List.filter_cons_of_neg (by simpa using hkey)]
      · rwa [List.filter_cons_of_pos (by simpa using hkey), get?, if_neg hkey]

/-! ## New names -/

theorem get?_eq_none_iff : get? name entries = none ↔ name ∉ names entries := by
  induction entries with
  | nil => simp [get?, names]
  | cons entry rest ih =>
      obtain ⟨key, value⟩ := entry
      rw [get?, names, List.map_cons, ← names, List.mem_cons, not_or, ← ih]
      split_ifs with hkey
      · simp [hkey]
      · simp [Ne.symm hkey]

/-- A new name is put last. -/
theorem alter_of_notMem (h : name ∉ names entries) (f : Option α → α) :
    alter name f entries = entries ++ [(name, f none)] := by
  induction entries with
  | nil => rfl
  | cons entry rest ih =>
      obtain ⟨key, value⟩ := entry
      obtain ⟨hkey, hrest⟩ := not_or.1 (mt List.mem_cons.2 h)
      rw [alter, if_neg (Ne.symm hkey), ih hrest, List.cons_append]

/-! ## Values given by the names -/

theorem alter_map_of_notMem {names : List Text} (h : name ∉ names) (value : Text → α)
    (f : Option α → α) :
    alter name f (names.map fun key => (key, value key)) =
      (names.map fun key => (key, value key)) ++ [(name, f none)] := by
  apply alter_of_notMem
  simpa [OrderedMap.names] using h

theorem alter_map_of_mem {names : List Text} (hnodup : names.Nodup) (h : name ∈ names)
    (value : Text → α) (f : Option α → α) :
    alter name f (names.map fun key => (key, value key)) =
      names.map fun key => (key, if key = name then f (some (value key)) else value key) := by
  induction names with
  | nil => cases h
  | cons key names ih =>
      obtain ⟨hkey, hnodup⟩ := List.nodup_cons.1 hnodup
      rw [List.map_cons, List.map_cons, alter]
      by_cases hhead : key = name
      · subst hhead
        rw [if_pos rfl, if_pos rfl]
        congr 1
        apply List.map_congr_left
        intro other hother
        rw [if_neg]
        rintro rfl
        exact hkey hother
      · rw [if_neg hhead, if_neg hhead, ih hnodup]
        exact (List.mem_cons.1 h).resolve_left (Ne.symm hhead)

/-! ## All values -/

section

variable (f : α → β)

/-- The map with each value changed. -/
def mapValues (entries : OrderedMap α) : OrderedMap β :=
  entries.map fun (name, value) => (name, f value)

theorem mapValues_cons (name : Text) (value : α) (rest : OrderedMap α) :
    mapValues f ((name, value) :: rest) = (name, f value) :: mapValues f rest := rfl

theorem names_mapValues (entries : OrderedMap α) : names (mapValues f entries) = names entries := by
  rw [names, mapValues, List.map_map]
  rfl

theorem get?_mapValues (name : Text) (entries : OrderedMap α) :
    get? name (mapValues f entries) = (get? name entries).map f := by
  induction entries with
  | nil => rfl
  | cons entry rest ih =>
      obtain ⟨key, value⟩ := entry
      rw [mapValues_cons, get?, get?, ih]
      split_ifs <;> rfl

/-- A change of one value and a change of all values can be made in any order, if the first one is
done accordingly. -/
theorem mapValues_alter {before : Option α → α} {after : Option β → β}
    (h : ∀ value, f (before value) = after (value.map f)) (name : Text) (entries : OrderedMap α) :
    mapValues f (alter name before entries) = alter name after (mapValues f entries) := by
  induction entries with
  | nil => exact congrArg (fun value => [(name, value)]) (h none)
  | cons entry rest ih =>
      obtain ⟨key, value⟩ := entry
      rw [mapValues_cons, alter, alter]
      split_ifs
      · rw [mapValues_cons, h, Option.map_some]
      · rw [mapValues_cons, ih]

theorem mapValues_set (name : Text) (value : α) (entries : OrderedMap α) :
    mapValues f (set name value entries) = set name (f value) (mapValues f entries) :=
  mapValues_alter f (fun _ => rfl) name entries

theorem mapValues_erase (name : Text) (entries : OrderedMap α) :
    mapValues f (erase name entries) = erase name (mapValues f entries) := by
  rw [mapValues, mapValues, erase, erase, List.filter_map]
  rfl

end

end AtomicCss.OrderedMap
