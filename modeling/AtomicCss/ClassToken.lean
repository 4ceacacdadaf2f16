import AtomicCss.Text.Basic

/-! # Class tokens

A token is five symbols that stand for a text. The text is folded into a 32-bit word by a
multiplicative hash, and the symbols are the word's five lowest six-bit fields, lowest first,
in an alphabet of 64 symbols. The symbol `0` stands at two places of the alphabet. -/

namespace AtomicCss.ClassToken

/-- The symbol for each value of a six-bit field. -/
def alphabet : List Char :=
  "01234567890abcdefghijklmnopqrstuvwxyzABCDEFGHIJKLMNOPQRSTUVWXYZ-".toList

/-- The word of the empty text. -/
def seed : UInt32 := 313

/-- The factor by which each further character multiplies the word. -/
def multiplier : UInt32 := 311

/-- The word of a text, modulo `2 ^ 32`. -/
def word (text : Text) : UInt32 := text.foldl (fun w c => w * multiplier + c.val) seed

/-- The offsets of the five fields. -/
def offsets : List Nat := [0, 6, 12, 18, 24]

/-- The six bits of `w` from `offset` on. -/
def field (w : UInt32) (offset : Nat) : Nat := w.toNat >>> offset % 64

/-- The symbol for a field's value. -/
def symbol (value : Nat) : Char := alphabet.getD value '-'

/-- The five symbols of a word. -/
def ofWord (w : UInt32) : Text := offsets.map fun offset => symbol (field w offset)

/-- The token of a text. -/
def ofText (text : Text) : Text := ofWord (word text)

@[simp]
theorem length_ofWord (w : UInt32) : (ofWord w).length = 5 := rfl

@[simp]
theorem length_ofText (text : Text) : (ofText text).length = 5 := rfl

end AtomicCss.ClassToken
