import AtomicCss.Charset.ByteOrder
import AtomicCss.Text.Basic

/-! # Characters of one byte

A code page gives a character to each byte, or to some of them. -/

namespace AtomicCss.Charset

/-- A table of 256 characters with its names. Both halves are written in rows. -/
structure CodePage where
  name : String
  aliases : List String
  lower : List String
  upper : List String
  deriving DecidableEq, Repr

namespace CodePage

/-- What stands in a table for a byte that has no character. -/
def unused : Char := '\uFFFE'

/-- The characters in the order of their bytes. -/
def characters (page : CodePage) : Text := (page.lower ++ page.upper).flatMap String.toList

/-- The character of a byte. -/
def character? (characters : Text) (byte : UInt8) : Option Char :=
  characters[byte.toNat]?.filter (· ≠ unused)

/-- The byte of a character. Of several bytes it is the last one. -/
def byte? (characters : Text) (c : Char) : Option UInt8 :=
  if c = unused then none
  else (characters.reverse.idxOf? c).map fun place => (characters.length - 1 - place).toUInt8

/-- The text that bytes stand for, if each of them has a character. -/
def decode? (page : CodePage) (bytes : Bytes) : Option Text :=
  let characters := page.characters
  bytes.mapM (character? characters)

/-- The bytes of a text, if each character has one. -/
def encode? (page : CodePage) (text : Text) : Option Bytes :=
  let characters := page.characters
  text.mapM (byte? characters)

end CodePage
end AtomicCss.Charset
