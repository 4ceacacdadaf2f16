/-! # Texts

A text is a list of code points. The operations here cut, join and search texts;
positions and lengths count code points. -/

namespace AtomicCss

/-- A sequence of code points. -/
abbrev Text := List Char

namespace Text

/-- The text before the first `c`, and the text after it when there is one. -/
def cut (c : Char) : Text → Text × Option Text
  | [] => ([], none)
  | d :: rest =>
      if d = c then ([], some rest)
      else (d :: (cut c rest).1, (cut c rest).2)

/-- The parts between the occurrences of `c`; there is always at least one. -/
def splitOn (c : Char) : Text → List Text
  | [] => [[]]
  | d :: rest =>
      if d = c then [] :: splitOn c rest
      else match splitOn c rest with
        | [] => [[d]]
        | part :: parts => (d :: part) :: parts

/-- The parts with `separator` between each two neighbours. -/
def joinWith (separator : Text) : List Text → Text
  | [] => []
  | [part] => part
  | part :: next :: parts => part ++ separator ++ joinWith separator (next :: parts)

/-- What stands before and after the first occurrence of `pattern`. -/
def around (pattern : Text) : Text → Option (Text × Text)
  | [] => if pattern = [] then some ([], []) else none
  | c :: rest =>
      if pattern.isPrefixOf (c :: rest) then some ([], (c :: rest).drop pattern.length)
      else (around pattern rest).map fun (before, after) => (c :: before, after)

/-- Puts `replacement` in the place of the first occurrence of `pattern`. -/
def replaceFirst (pattern replacement text : Text) : Text :=
  match around pattern text with
  | some (before, after) => before ++ replacement ++ after
  | none => text

/-- The number of bytes of a text in UTF-8. -/
def byteSize (text : Text) : Nat := text.foldr (fun c size => c.utf8Size + size) 0

/-- Lowercases the letters A to Z and keeps every other character. -/
def lowercase (text : Text) : Text := text.map Char.toLower

@[simp]
theorem joinWith_nil (separator : Text) : joinWith separator [] = [] := rfl

@[simp]
theorem joinWith_singleton (separator part : Text) : joinWith separator [part] = part := rfl

@[simp]
theorem joinWith_cons_cons (separator part next : Text) (parts : List Text) :
    joinWith separator (part :: next :: parts) =
      part ++ separator ++ joinWith separator (next :: parts) := rfl

/-- A cut loses only the character it cuts at. -/
theorem cut_eq (c : Char) (text : Text) :
    text = match cut c text with
      | (before, none) => before
      | (before, some after) => before ++ c :: after := by
  induction text with
  | nil => rfl
  | cons d rest ih =>
      by_cases h : d = c
      · simp [cut, h]
      · rcases hr : cut c rest with ⟨before, _ | after⟩ <;> simp_all [cut]

/-- What stands around an occurrence, joined by the pattern, is the text. -/
theorem eq_of_around {pattern text before after : Text}
    (h : around pattern text = some (before, after)) :
    text = before ++ pattern ++ after := by
  induction text generalizing before with
  | nil =>
      by_cases hp : pattern = [] <;> simp_all [around]
  | cons c rest ih =>
      by_cases hp : pattern.isPrefixOf (c :: rest)
      · simp only [around, hp, if_true, Option.some.injEq, Prod.mk.injEq] at h
        obtain ⟨rfl, rfl⟩ := h
        obtain ⟨tail, ht⟩ := List.isPrefixOf_iff_prefix.1 hp
        simp [← ht]
      · simp only [around, hp] at h
        obtain ⟨⟨b, a⟩, hb, he⟩ := Option.map_eq_some_iff.1 h
        simp only [Prod.mk.injEq] at he
        obtain ⟨rfl, rfl⟩ := he
        rw [ih hb]
        simp

end Text
end AtomicCss
