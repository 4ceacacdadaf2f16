import AtomicCss.Markup.Reference
import AtomicCss.Sheet.Printer
import Mathlib.Data.List.Basic

/-! # Escapes in CSS text

A backslash and up to six hexadecimal digits stand for a code point, and a backslash and any other
character stand for that character. A `<` of CSS text is written as an escape of the first kind, so
that the text can stand in a `style` element. That keeps what the text stands for, unless the `<` is
escaped already: the backslash before it then escapes the one that is written after it. -/

namespace AtomicCss

/-- What CSS text is read as: characters, and escapes of both kinds. -/
inductive CssUnit where
  | plain (c : Char)
  | escaped (c : Char)
  | hex (digits : Text)
  deriving DecidableEq

namespace CssUnit

/-- The blanks of CSS: space, tab, line feed, form feed and carriage return. -/
def isBlank (c : Char) : Bool := c ∈ [' ', '\t', '\n', '\x0c', '\r']

/-- Whether a character is a hexadecimal digit. -/
def isHexDigit (c : Char) : Bool := (Markup.hexValue? c).isSome

/-- The text without one blank at its start. -/
def dropBlank : Text → Text
  | [] => []
  | c :: rest => if isBlank c then rest else c :: rest

/-- The hexadecimal digits at the start of a text, up to a limit. -/
def leadingDigits (limit : Nat) (text : Text) : Text := (text.take limit).takeWhile isHexDigit

theorem length_dropBlank_le (text : Text) : (dropBlank text).length ≤ text.length := by
  cases text with
  | nil => exact Nat.le_refl 0
  | cons c rest =>
      rw [dropBlank]
      split_ifs
      · exact Nat.le_succ _
      · exact Nat.le_refl _

/-- Reads CSS text from left to right. One blank after the digits of an escape belongs to it. A
backslash at the end of the text escapes nothing and stands for itself. -/
def ofText : Text → List CssUnit
  | [] => []
  | c :: rest =>
      if c = '\\' then
        if leadingDigits 6 rest = [] then
          match rest with
          | [] => [plain c]
          | d :: rest => escaped d :: ofText rest
        else
          hex (leadingDigits 6 rest) ::
            ofText (dropBlank (rest.drop (leadingDigits 6 rest).length))
      else plain c :: ofText rest
termination_by text => text.length
decreasing_by
  · exact Nat.lt_succ_of_lt (Nat.lt_succ_self _)
  · have hle := length_dropBlank_le (rest.drop (leadingDigits 6 rest).length)
    rw [List.length_drop] at hle
    rw [List.length_cons]
    omega
  · exact Nat.lt_succ_self _

/-- The code point that a unit stands for. -/
def codePoint : CssUnit → Nat
  | plain c => c.toNat
  | escaped c => c.toNat
  | hex digits => digits.foldl (fun n c => 16 * n + (Markup.hexValue? c).getD 0) 0

/-- The code points that CSS text stands for. -/
def decode (css : Text) : List Nat := (ofText css).map codePoint

/-! ## Reading -/

variable {rest : Text}

@[simp]
theorem ofText_nil : ofText [] = [] := by
  rw [ofText]

theorem ofText_plain {c : Char} (h : c ≠ '\\') : ofText (c :: rest) = plain c :: ofText rest := by
  rw [ofText.eq_def]
  exact if_neg h

theorem ofText_backslash : ofText ['\\'] = [plain '\\'] := by
  rw [ofText.eq_def]
  rfl

theorem ofText_escaped {c : Char} (h : leadingDigits 6 (c :: rest) = []) :
    ofText ('\\' :: c :: rest) = escaped c :: ofText rest := by
  rw [ofText.eq_def]
  exact (if_pos rfl).trans (if_pos h)

theorem ofText_hex (h : leadingDigits 6 rest ≠ []) :
    ofText ('\\' :: rest) = hex (leadingDigits 6 rest) ::
      ofText (dropBlank (rest.drop (leadingDigits 6 rest).length)) := by
  rw [ofText.eq_def]
  exact (if_pos rfl).trans (if_neg h)

/-! ## Text without `<` -/

/-- What a unit turns into when every `<` is written as an escape. -/
def escapeLess : CssUnit → List CssUnit
  | plain c => if c = '<' then [hex ['3', 'c']] else [plain c]
  | escaped c =>
      if c = '<' then [escaped '\\', plain '3', plain 'c', plain ' '] else [escaped c]
  | hex digits => [hex digits]

theorem escapeStyleText_cons_less :
    escapeStyleText ('<' :: rest) = '\\' :: '3' :: 'c' :: ' ' :: escapeStyleText rest := rfl

theorem escapeStyleText_cons_of_ne {c : Char} (h : c ≠ '<') :
    escapeStyleText (c :: rest) = c :: escapeStyleText rest := by
  rw [escapeStyleText, List.flatMap_cons, if_neg h, List.singleton_append, escapeStyleText]

theorem leadingDigits_escapeStyleText (limit : Nat) (text : Text) :
    leadingDigits limit (escapeStyleText text) = leadingDigits limit text := by
  induction text generalizing limit with
  | nil => rfl
  | cons c rest ih =>
      cases limit with
      | zero => rfl
      | succ limit =>
          by_cases hc : c = '<'
          · subst hc
            rfl
          · simp only [leadingDigits] at ih
            rw [escapeStyleText_cons_of_ne hc, leadingDigits, leadingDigits, List.take_succ_cons,
              List.take_succ_cons, List.takeWhile_cons, List.takeWhile_cons, ih]

theorem drop_escapeStyleText (limit : Nat) (text : Text) :
    (escapeStyleText text).drop (leadingDigits limit text).length =
      escapeStyleText (text.drop (leadingDigits limit text).length) := by
  induction text generalizing limit with
  | nil => simp [leadingDigits, escapeStyleText]
  | cons c rest ih =>
      cases limit with
      | zero => rfl
      | succ limit =>
          rw [leadingDigits, List.take_succ_cons, List.takeWhile_cons]
          split_ifs with hdigit
          · have hc : c ≠ '<' := by
              rintro rfl
              exact absurd hdigit (by decide)
            rw [escapeStyleText_cons_of_ne hc, List.length_cons, List.drop_succ_cons,
              List.drop_succ_cons]
            exact ih limit
          · rfl

theorem dropBlank_escapeStyleText (text : Text) :
    dropBlank (escapeStyleText text) = escapeStyleText (dropBlank text) := by
  cases text with
  | nil => rfl
  | cons c rest =>
      by_cases hc : c = '<'
      · subst hc
        rfl
      · rw [escapeStyleText_cons_of_ne hc, dropBlank, dropBlank]
        split_ifs
        · rfl
        · exact (escapeStyleText_cons_of_ne hc).symm

/-- The units of the text in which every `<` is written as an escape. The induction is on the reading
of the text; the digits and the blank of an escape end where they did. -/
theorem ofText_escapeStyleText (css : Text) :
    ofText (escapeStyleText css) = (ofText css).flatMap escapeLess := by
  fun_induction ofText css with
  | case1 => exact ofText_nil
  | case2 => exact ofText_backslash
  | case3 d rest hdigits ih =>
      have hsame := leadingDigits_escapeStyleText 6 (d :: rest)
      rw [List.flatMap_cons, ← ih, escapeStyleText_cons_of_ne (by decide), escapeLess]
      split_ifs with hless
      · -- the backslash of the escape that is written is the one that is escaped
        subst hless
        rw [escapeStyleText_cons_less, ofText_escaped rfl, ofText_plain (by decide),
          ofText_plain (by decide), ofText_plain (by decide)]
        rfl
      · rw [escapeStyleText_cons_of_ne hless] at hsame ⊢
        exact ofText_escaped (hsame.trans hdigits)
  | case4 rest hdigits ih =>
      have hsame := leadingDigits_escapeStyleText 6 rest
      rw [List.flatMap_cons, ← ih, escapeStyleText_cons_of_ne (by decide),
        ofText_hex (hsame ▸ hdigits), hsame, drop_escapeStyleText, dropBlank_escapeStyleText]
      rfl
  | case5 c rest hc ih =>
      rw [List.flatMap_cons, ← ih, escapeLess]
      split_ifs with hless
      · subst hless
        rw [escapeStyleText_cons_less]
        exact ofText_hex (List.cons_ne_nil _ _)
      · rw [escapeStyleText_cons_of_ne hless]
        exact ofText_plain hc

theorem map_codePoint_escapeLess {unit : CssUnit} (h : unit ≠ escaped '<') :
    (escapeLess unit).map codePoint = [codePoint unit] := by
  cases unit with
  | plain c =>
      rw [escapeLess]
      split_ifs with hless
      · subst hless
        rfl
      · rfl
  | escaped c =>
      rw [escapeLess, if_neg fun hless => h (congrArg escaped hless)]
      rfl
  | hex digits => rfl

/-- No unit gets lost, and an escaped `<` turns into several units. -/
theorem length_flatMap_escapeLess_iff (units : List CssUnit) :
    units.length ≤ (units.flatMap escapeLess).length ∧
      ((units.flatMap escapeLess).length = units.length ↔ escaped '<' ∉ units) := by
  induction units with
  | nil => simp
  | cons unit units ih =>
      obtain ⟨hle, hiff⟩ := ih
      rw [List.flatMap_cons, List.length_append, List.length_cons, List.mem_cons, not_or, ← hiff]
      by_cases hunit : unit = escaped '<'
      · subst hunit
        have hfour : (escapeLess (escaped '<')).length = 4 := rfl
        exact ⟨by omega, iff_of_false (by omega) fun h => h.1 rfl⟩
      · have hone : (escapeLess unit).length = 1 := by
          have hmap := congrArg List.length (map_codePoint_escapeLess hunit)
          rwa [List.length_map] at hmap
        have hne : escaped '<' ≠ unit := fun heq => hunit heq.symm
        simp only [hne, not_false_iff, true_and]
        omega

/-- Writing every `<` as an escape leaves no `<`, and keeps what CSS text stands for exactly if no `<`
in it is escaped already. -/
theorem decode_escapeStyleText_eq_iff (css : Text) :
    (decode (escapeStyleText css) = decode css ↔ escaped '<' ∉ ofText css) ∧
      '<' ∉ escapeStyleText css := by
  refine ⟨⟨?_, ?_⟩, not_mem_escapeStyleText css⟩
  · intro h
    have hlength := congrArg List.length h
    rw [decode, decode, List.length_map, List.length_map, ofText_escapeStyleText] at hlength
    exact (length_flatMap_escapeLess_iff _).2.1 hlength
  · intro h
    rw [decode, decode, ofText_escapeStyleText, List.map_flatMap, List.map_eq_flatMap]
    apply List.flatMap_congr
    intro unit hunit
    apply map_codePoint_escapeLess
    rintro rfl
    exact h hunit

/-- An escaped `<` is read as a backslash and three characters after it has been written as an
escape. -/
theorem escaped_less_changes_meaning :
    escapeStyleText "\\<".toList = "\\\\3c ".toList ∧
      decode "\\<".toList = ['<'.toNat] ∧
      decode (escapeStyleText "\\<".toList) = "\\3c ".toList.map Char.toNat ∧
      decode (escapeStyleText "\\<".toList) ≠ decode "\\<".toList := by
  decide +kernel

end CssUnit
end AtomicCss
