import AtomicCss.Response.Header
import Mathlib.Tactic.SplitIfs

/-! # Headers that are set

A header that is set stands once among the headers, where the first one of its name stood or else at
the end, and all others stay with their repetitions and their order. These conditions leave no choice:
only setting the header meets them. -/

namespace AtomicCss.Response.Headers

variable {name value : Text} {headers given sent : Headers}

/-! ## What is set and what stays -/

/-- A header that is set stands once among the headers, with its value. -/
theorem filter_set_self (name value : Text) (headers : Headers) :
    (headers.set name value).filter (fun header => header.1 = name) = [(name, value)] := by
  induction headers with
  | nil => simp [set]
  | cons header rest ih =>
      obtain ⟨key, old⟩ := header
      rw [set]
      split_ifs with hkey
      · simp [List.filter_filter]
      · rwa [List.filter_cons_of_neg (by simpa using hkey)]

theorem filter_set_of_ne (name value : Text) (headers : Headers) :
    (headers.set name value).filter (fun header => header.1 ≠ name) =
      headers.filter fun header => header.1 ≠ name := by
  induction headers with
  | nil => simp [set]
  | cons header rest ih =>
      obtain ⟨key, old⟩ := header
      rw [set]
      split_ifs with hkey
      · simp [hkey, List.filter_filter]
      · rw [List.filter_cons_of_pos (by simpa using hkey),
          List.filter_cons_of_pos (by simpa using hkey), ih]

theorem takeWhile_set (name value : Text) (headers : Headers) :
    (headers.set name value).takeWhile (fun header => header.1 ≠ name) =
      headers.takeWhile fun header => header.1 ≠ name := by
  induction headers with
  | nil => simp [set]
  | cons header rest ih =>
      obtain ⟨key, old⟩ := header
      rw [set]
      split_ifs with hkey
      · simp [hkey]
      · rw [List.takeWhile_cons_of_pos (by simpa using hkey),
          List.takeWhile_cons_of_pos (by simpa using hkey), ih]

theorem get?_set_of_ne {other : Text} (h : other ≠ name) (value : Text) (headers : Headers) :
    get? other (headers.set name value) = get? other headers := by
  have hstays (list : Headers) : get? other (list.filter fun header => header.1 ≠ name) =
      get? other list := by
    rw [get?, get?, List.find?_filter]
    congr 2
    funext header
    by_cases hkey : header.1 = other <;> simp [hkey, h]
  rw [← hstays (headers.set name value), filter_set_of_ne, hstays]

/-- A header that is set again has the last value. -/
theorem set_set (name first second : Text) (headers : Headers) :
    (headers.set name first).set name second = headers.set name second := by
  induction headers with
  | nil => simp [set]
  | cons header rest ih =>
      obtain ⟨key, old⟩ := header
      by_cases hkey : key = name
      · simp [set, hkey, List.filter_filter]
      · rw [set, if_neg hkey, set, if_neg hkey, set, if_neg hkey, ih]

/-! ## What setting a header is -/

/-- The headers `sent` are the headers `given`, with one header `name` that has this value and stands
where the first one stood, or at the end if there was none. -/
structure Sets (name value : Text) (given sent : Headers) : Prop where
  only : sent.filter (fun header => header.1 = name) = [(name, value)]
  others : sent.filter (fun header => header.1 ≠ name) =
    given.filter fun header => header.1 ≠ name
  place : sent.takeWhile (fun header => header.1 ≠ name) =
    given.takeWhile fun header => header.1 ≠ name

/-- The header is put between the others in front of the first one of its name and the rest of the
others. -/
theorem set_eq (name value : Text) (headers : Headers) :
    headers.set name value =
      headers.takeWhile (fun header => header.1 ≠ name) ++ (name, value) ::
        (headers.filter fun header => header.1 ≠ name).drop
          (headers.takeWhile fun header => header.1 ≠ name).length := by
  induction headers with
  | nil => rfl
  | cons header rest ih =>
      obtain ⟨key, old⟩ := header
      rw [set]
      split_ifs with hkey
      · simp [hkey]
      · rw [List.takeWhile_cons_of_pos (by simpa using hkey),
          List.filter_cons_of_pos (by simpa using hkey), List.length_cons, List.drop_succ_cons,
          List.cons_append, ih]

/-- Setting a header changes nothing where it stands once and has this value. -/
theorem set_eq_self (h : headers.filter (fun header => header.1 = name) = [(name, value)]) :
    headers.set name value = headers := by
  induction headers with
  | nil => cases h
  | cons header rest ih =>
      obtain ⟨key, old⟩ := header
      rw [set]
      split_ifs with hkey
      · rw [List.filter_cons_of_pos (by simpa using hkey)] at h
        obtain ⟨hheader, hrest⟩ := List.cons.inj h
        rw [hheader, List.filter_eq_self.2]
        simpa [List.filter_eq_nil_iff] using hrest
      · rw [List.filter_cons_of_neg (by simpa using hkey)] at h
        rw [ih h]

theorem sets_iff : Sets name value given sent ↔ sent = given.set name value := by
  constructor
  · rintro ⟨honly, hothers, hplace⟩
    rw [← set_eq_self honly, set_eq name value sent, hothers, hplace, ← set_eq]
  · rintro rfl
    exact ⟨filter_set_self name value given, filter_set_of_ne name value given,
      takeWhile_set name value given⟩

end AtomicCss.Response.Headers
