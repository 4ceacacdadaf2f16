import AtomicCss.Text.Basic

/-! # Line ends -/

namespace AtomicCss.Text

/-- The text with each carriage return, alone or before a line feed, turned into a line
feed. -/
def normalizeLineEnds : Text → Text
  | [] => []
  | '\r' :: '\n' :: rest => '\n' :: normalizeLineEnds rest
  | c :: rest => (if c = '\r' then '\n' else c) :: normalizeLineEnds rest

end AtomicCss.Text
