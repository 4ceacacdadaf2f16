import AtomicCss.Fault
import AtomicCss.Markup.Builder
import AtomicCss.Markup.Printer
import AtomicCss.Markup.Token.Scan
import AtomicCss.Text.Blank

/-! # Documents

A page is a document when it starts with a document type or with `<html`. It is read as one
tree, whose root is the first element, and written with its document type in front. -/

namespace AtomicCss.Markup

/-- Whether a text starts with a document type. -/
def startsWithDoctype (text : Text) : Bool := startsWithWord "<!doctype".toList text

/-- Whether a page is a document rather than a fragment. -/
def isDocument (page : Text) : Bool :=
  let text := page.trim
  startsWithDoctype text || startsWithWord "<html".toList text

/-- A document type and the tree below it. -/
structure Document where
  doctype : Doctype
  root : Node

/-- The document type of a document that gives none. -/
def Doctype.standard : Doctype :=
  ⟨some "-//W3C//DTD HTML 4.0 Transitional//EN".toList,
    some "http://www.w3.org/TR/REC-html40/loose.dtd".toList⟩

/-- The identifier, unless it is empty. -/
def nonempty (identifier : Option Text) : Option Text := identifier.filter fun text => !text.isEmpty

/-- A system identifier between quotes. -/
def quoteSystemId (systemId : Text) : Text :=
  if '"' ∈ systemId then '\'' :: systemId ++ ['\''] else '"' :: systemId ++ ['"']

/-- The declaration of a document type. -/
def Doctype.print (rootTag : Text) (doctype : Doctype) : Text :=
  let identifiers := match nonempty doctype.publicId, nonempty doctype.systemId with
    | some publicId, some systemId =>
        " PUBLIC \"".toList ++ publicId ++ "\" ".toList ++ quoteSystemId systemId
    | some publicId, none => " PUBLIC \"".toList ++ publicId ++ ['"']
    | none, some systemId => " SYSTEM ".toList ++ quoteSystemId systemId
    | none, none => []
  "<!DOCTYPE ".toList ++ rootTag ++ identifiers ++ ['>']

/-- The tag of an element. -/
def Node.tag : Node → Text
  | element tag _ _ => tag
  | _ => []

namespace Document

/-- Reads a page as a document. It has to have an element. -/
def read (page : Text) : Except Fault Document :=
  let built := Builder.ofTokens (Token.scan page)
  match built.roots.reverse.find? Node.isElement with
  | none => .error .emptyDocument
  | some root => .ok ⟨built.doctype.getD Doctype.standard, root⟩

/-- Writes the document that was read from `page`, with a document type only if the page starts
with one. -/
def print (page : Text) (document : Document) : Except Fault Text :=
  let tree := printNode false document.root
  if startsWithDoctype page.trimStart then
    let doctype := document.doctype.print document.root.tag
    if isXmlText doctype then .ok (dropContentTypeMeta (doctype ++ '\n' :: tree))
    else .error .notXmlText
  else .ok (dropContentTypeMeta tree)

end Document
end AtomicCss.Markup
