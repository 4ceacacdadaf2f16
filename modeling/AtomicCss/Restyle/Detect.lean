import AtomicCss.Text.Blank

/-! # Detecting inline styles

A page that has no blank character, then the word `style` and then, perhaps after blanks, an
equals sign, is taken to have no inline style. -/

namespace AtomicCss

/-- The letter that a character is read as: a to z in either case, and the long s as s. -/
def foldLetter (c : Char) : Char := if c = 'ſ' then 's' else c.toLower

/-- Whether `style`, blanks and an equals sign start a text. -/
def startsStyleAttribute (text : Text) : Bool :=
  "style".toList.isPrefixOf ((text.take 5).map foldLetter) &&
    ((text.drop 5).dropWhile Text.isBlank).head? == some '='

/-- Whether an inline style may stand somewhere in a page. -/
def mentionsStyle : Text → Bool
  | [] => false
  | c :: rest => (Text.isBlank c && startsStyleAttribute rest) || mentionsStyle rest

end AtomicCss
