import AtomicCss.Text.Basic

/-! # Blank characters and trimming

The blank characters are the ASCII controls that move the cursor or separate
records, the plain space, and the Unicode spaces. Zero-width characters and the
byte order mark are not blank. -/

namespace AtomicCss.Text

/-- The characters that trimming removes. -/
def isBlank (c : Char) : Bool :=
  let n := c.toNat
  (0x09 ≤ n && n ≤ 0x0D) || (0x1C ≤ n && n ≤ 0x20) || n == 0x85 || n == 0xA0 ||
    n == 0x1680 || (0x2000 ≤ n && n ≤ 0x200A) || n == 0x2028 || n == 0x2029 ||
    n == 0x202F || n == 0x205F || n == 0x3000

/-- The text from its first character that is not blank. -/
def trimStart (text : Text) : Text := text.dropWhile isBlank

/-- The text up to its last character that is not blank. -/
def trimEnd (text : Text) : Text := (text.reverse.dropWhile isBlank).reverse

/-- The text without the blanks at its two ends. -/
def trim (text : Text) : Text := trimEnd (trimStart text)

theorem trimStart_eq_nil_iff {text : Text} : trimStart text = [] ↔ text.all isBlank := by
  induction text with
  | nil => simp [trimStart]
  | cons c rest ih =>
      by_cases h : isBlank c
      · rw [trimStart, List.dropWhile_cons_of_pos h, List.all_cons, h, Bool.true_and]
        exact ih
      · simp [trimStart, h]

theorem trimEnd_eq_nil_iff {text : Text} : trimEnd text = [] ↔ text.all isBlank := by
  have h : trimStart text.reverse = [] ↔ text.reverse.all isBlank := trimStart_eq_nil_iff
  simpa only [trimEnd, trimStart, List.reverse_eq_nil_iff, List.all_reverse] using h

theorem all_isBlank_trimStart {text : Text} :
    (trimStart text).all isBlank = text.all isBlank := by
  induction text with
  | nil => rfl
  | cons c rest ih =>
      by_cases h : isBlank c
      · simpa [trimStart, h] using ih
      · simp [trimStart, h]

/-- Trimming leaves nothing exactly when every character is blank. -/
theorem trim_eq_nil_iff {text : Text} : trim text = [] ↔ text.all isBlank := by
  rw [trim, trimEnd_eq_nil_iff, all_isBlank_trimStart]

end AtomicCss.Text
