import AtomicCss.Markup.Document

/-! # Fragments

A fragment is read as the content of a body. Its nodes hang below a container element, which is
not written. -/

namespace AtomicCss.Markup.Fragment

/-- The text that some nodes start with. -/
def leadingText : List Node → Text
  | .text content :: rest => content ++ leadingText rest
  | _ => []

/-- The container of the nodes of a body. Leading text is left out if it is blank. -/
def ofBody (children : List Node) : Except Fault Node :=
  let leading := leadingText children
  let rest := children.dropWhile Node.isText
  if leading.all Text.isBlank then .ok (.element "div".toList [] rest)
  else if isXmlText leading then .ok (.element "div".toList [] (.text leading :: rest))
  else .error .notXmlText

/-- Reads a page as a fragment. -/
def read (page : Text) : Except Fault Node :=
  match Document.read ("<html><body>".toList ++ page ++ "</body></html>".toList) with
  | .error fault => .error fault
  | .ok document =>
      match document.root.children.filter (Node.hasTag bodyTag) with
      | [body] => ofBody body.children
      | _ => .error .severalBodies

/-- Writes the nodes below the container. -/
def print (container : Node) : Text := dropContentTypeMeta (printNodes false container.children)

end AtomicCss.Markup.Fragment
