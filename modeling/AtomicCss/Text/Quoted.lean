import AtomicCss.Text.Numeral
import AtomicCss.Text.Printable

/-! # Quoted texts

A quoted text stands between two equal quotation marks. The mark is the apostrophe unless the
text holds an apostrophe and no double quote. The mark and the backslash are written after a
backslash, and a character that is not printable as an escape sequence. -/

namespace AtomicCss.Text

/-- The mark that a text is quoted with. -/
def quotationMark (text : Text) : Char :=
  if '\'' ∈ text ∧ '"' ∉ text then '"' else '\''

/-- The escape sequence that names a character by its code point. -/
def codePointEscape (c : Char) : Text :=
  let n := c.toNat
  if n < 0x100 then '\\' :: 'x' :: paddedHex 2 n
  else if n < 0x10000 then '\\' :: 'u' :: paddedHex 4 n
  else '\\' :: 'U' :: paddedHex 8 n

/-- One character as it is written between two marks. -/
def quotedChar (mark c : Char) : Text :=
  if c = mark ∨ c = '\\' then ['\\', c]
  else if c = '\n' then ['\\', 'n']
  else if c = '\r' then ['\\', 'r']
  else if c = '\t' then ['\\', 't']
  else if isPrintable c then [c]
  else codePointEscape c

/-- The text between its quotation marks. -/
def quoted (text : Text) : Text :=
  let mark := quotationMark text
  mark :: text.flatMap (quotedChar mark) ++ [mark]

end AtomicCss.Text
