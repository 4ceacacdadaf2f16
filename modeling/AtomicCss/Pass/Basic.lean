import AtomicCss.Markup.Fragment
import AtomicCss.Restyle.Detect
import AtomicCss.Restyle.Element
import AtomicCss.Sheet.Printer

/-! # Restyling pages

A pass over a page first collects the inline styles into a sheet and then embeds the sheet in the
page. Each step is an operation on the sheet: it may fail in the middle, and the rules collected
before stay. -/

namespace AtomicCss.Pass

open Markup

/-- The CSS text of the sheet, which is emptied. -/
def flush (sheet : Sheet) : Effect Sheet Text := .ok .empty sheet.print

/-- The `style` block of the sheet, which is emptied. -/
def flushBlock (settings : Settings) (sheet : Sheet) : Effect Sheet Text :=
  .ok .empty (sheet.block settings.styleId)

/-- Collects the style of one element. -/
def collectElement (settings : Settings) (node : Node) (sheet : Sheet) : Effect Sheet Node :=
  let done := restyleElement settings node sheet
  ⟨done.state.2, done.notices, done.outcome.map fun () => done.state.1⟩

/-- Collects the styles of every element of a tree. -/
def collectTree (settings : Settings) (root : Node) (sheet : Sheet) : Effect Sheet Node :=
  let done := restyleTree settings root sheet
  ⟨done.state.2, done.notices, done.outcome.map fun () => done.state.1⟩

/-- The `style` element with this CSS text. -/
def styleElement (settings : Settings) (css : Text) : Except Fault Node :=
  let content := escapeStyleText css
  if isXmlText settings.styleId && isXmlText content then
    .ok (.element "style".toList [("id".toList, some settings.styleId)] [.text content])
  else .error .notXmlText

/-- The children of a root with `style` at the start of the first head among them. -/
def insertIntoHead (style : Node) : List Node → Option (List Node)
  | [] => none
  | node :: rest =>
      match node with
      | .element tag attributes children =>
          if tag = headTag then
            some (.element tag attributes (Node.insertFirst style children) :: rest)
          else (insertIntoHead style rest).map (node :: ·)
      | node => (insertIntoHead style rest).map (node :: ·)

/-- The root with `style` at the start of its head, which is supplied if there is none. -/
def insertStyle (style : Node) : Node → Node
  | .element tag attributes children =>
      match insertIntoHead style children with
      | some children => .element tag attributes children
      | none =>
          .element tag attributes (Node.insertFirst (.element headTag [] [style]) children)
  | node => node

/-- Embeds the sheet in a tree, whose root has to be an element. -/
def embedTree (settings : Settings) (root : Node) (sheet : Sheet) : Effect Sheet Node :=
  (flush sheet).andThen fun css sheet =>
    if css.isEmpty then .ok sheet root
    else if !root.isElement then .fail sheet .notAnElement
    else
      match styleElement settings css with
      | .ok style => .ok sheet (insertStyle style root)
      | .error fault => .fail sheet fault

/-- The end tag in front of which a block is put. -/
def headEnd : Text := "</head>".toList

/-- The page with a block before the first end of a head, or else in front. -/
def insertBlock (block page : Text) : Text :=
  match Text.around headEnd page with
  | some (before, after) => before ++ block ++ headEnd ++ after
  | none => block ++ page

/-- Reads a page as a document and writes what is made of it. -/
def onDocument (page : Text) (sheet : Sheet)
    (change : Node → Sheet → Effect Sheet Node) : Effect Sheet Text :=
  match Document.read page with
  | .error fault => .fail sheet fault
  | .ok document =>
      (change document.root sheet).andThen fun root sheet =>
        ⟨sheet, [], Document.print page { document with root := root }⟩

/-- Collects the inline styles of a page. -/
def collectPage (settings : Settings) (page : Text) (sheet : Sheet) : Effect Sheet Text :=
  if !mentionsStyle page then .ok sheet page
  else if isDocument page then onDocument page sheet (collectTree settings)
  else
    match Fragment.read page with
    | .error fault => .fail sheet fault
    | .ok container =>
        (collectTree settings container sheet).andThen fun container sheet =>
          .ok sheet (Fragment.print container)

/-- Embeds the sheet in a page. -/
def embedPage (settings : Settings) (page : Text) (sheet : Sheet) : Effect Sheet Text :=
  if sheet.isEmpty then .ok sheet page
  else if isDocument page then onDocument page sheet (embedTree settings)
  else (flushBlock settings sheet).andThen fun block sheet => .ok sheet (insertBlock block page)

/-- Restyles a document that is read once: styles into the sheet, and the sheet into the tree.
A document for which there is no rule stays as it is. -/
def renderDocument (settings : Settings) (page : Text) (sheet : Sheet) : Effect Sheet Text :=
  match Document.read page with
  | .error fault => .fail sheet fault
  | .ok document =>
      (collectTree settings document.root sheet).andThen fun root sheet =>
        if sheet.isEmpty then .ok sheet page
        else
          (embedTree settings root sheet).andThen fun root sheet =>
            ⟨sheet, [], Document.print page { document with root := root }⟩

/-- Restyles a page: styles into the sheet, and the sheet into the page. -/
def render (settings : Settings) (page : Text) (sheet : Sheet) : Effect Sheet Text :=
  if isDocument page then renderDocument settings page sheet
  else (collectPage settings page sheet).andThen (embedPage settings)

end AtomicCss.Pass
