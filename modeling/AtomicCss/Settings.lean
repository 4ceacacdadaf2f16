import AtomicCss.Text.Basic

/-! # Settings -/

namespace AtomicCss

/-- How styles are compiled: what every generated class starts with, the id of the emitted
`style` block, and whether malformed declarations are refused. -/
structure Settings where
  classStem : Text := "hw_".toList
  styleId : Text := "headwind".toList
  strict : Bool := false
  deriving DecidableEq, Repr

/-- The settings that hold where nothing is configured. -/
def Settings.standard : Settings := {}

end AtomicCss
