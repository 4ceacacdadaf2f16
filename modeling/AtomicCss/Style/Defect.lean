import AtomicCss.Text.Quoted

/-! # Defects of style texts

The reasons for which a style text is refused, and where in the text they are found. -/

namespace AtomicCss.Style

/-- Why a style text is refused. -/
inductive Defect where
  | nestedTooDeep
  | unmatchedClose
  | unclosedRule (selector : Text)
  /-- Only when malformed declarations are refused; the segment is trimmed. -/
  | malformedDeclaration (segment : Text)
  deriving DecidableEq, Repr

/-- The wording of a defect. -/
def Defect.reason : Defect → Text
  | nestedTooDeep => "Nested rules deeper than one level are not supported".toList
  | unmatchedClose => "Unexpected '\x7d' without a matching '\x7b'".toList
  | unclosedRule selector =>
      "Rule '".toList ++ selector ++ "' is missing its closing '\x7d'".toList
  | malformedDeclaration segment =>
      "Declaration is incorrectly formatted: ".toList ++ segment.quoted

/-- A reason with its place. The place is left out when there is no source text or the
position is negative. -/
def located (reason source : Text) (position : Int) : Text :=
  if source ≠ [] ∧ 0 ≤ position then
    reason ++ " at position ".toList ++ Text.ofInt position ++ " in ".toList ++ source.quoted
  else reason

/-- A defect found at a position of a source text. -/
structure StyleError where
  defect : Defect
  position : Nat
  source : Text
  deriving DecidableEq, Repr

/-- The wording of an error, with its place. -/
def StyleError.message (error : StyleError) : Text :=
  located error.defect.reason error.source error.position

end AtomicCss.Style
