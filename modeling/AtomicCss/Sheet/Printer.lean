import AtomicCss.Sheet.Basic

/-! # Writing sheets

A sheet is written as CSS text, one line for each body, or as an HTML `style` block. -/

namespace AtomicCss

/-- A body with its selector list in the place of the first placeholder. -/
def Sheet.printEntry (body : Text) (selectors : List Text) : Text :=
  Text.replaceFirst placeholder (Text.joinWith [',', ' '] selectors) body

/-- The CSS text of a sheet. -/
def Sheet.print (sheet : Sheet) : Text :=
  Text.joinWith ['\n'] (sheet.entries.map fun (body, selectors) => printEntry body selectors)

/-- CSS text in which `<` is written as a CSS escape, so that it cannot end a `style`
element. -/
def escapeStyleText (css : Text) : Text :=
  css.flatMap fun c => if c = '<' then ['\\', '3', 'c', ' '] else [c]

/-- One character as it is written inside a quoted attribute. -/
def escapeAttributeChar (c : Char) : Text :=
  if c = '&' then "&amp;".toList
  else if c = '<' then "&lt;".toList
  else if c = '>' then "&gt;".toList
  else if c = '"' then "&quot;".toList
  else if c = '\'' then "&#x27;".toList
  else [c]

/-- The `style` block of a sheet, empty when the sheet has no rules. -/
def Sheet.block (styleId : Text) (sheet : Sheet) : Text :=
  if sheet.isEmpty then []
  else
    "<style id=\"".toList ++ styleId.flatMap escapeAttributeChar ++ "\">".toList ++
      escapeStyleText sheet.print ++ "</style>".toList

theorem not_mem_escapeStyleText (css : Text) : '<' ∉ escapeStyleText css := by
  simp only [escapeStyleText, List.mem_flatMap, not_exists, not_and]
  intro c _ h
  split at h
  · simp at h
  · exact absurd (List.mem_singleton.1 h).symm ‹_›

end AtomicCss
