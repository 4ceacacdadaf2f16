import AtomicCss.Markup.Basic

/-! # Markup tokens

A page is read as a sequence of tags, texts, comments and document types. This module has the
tokens and the character classes that part them. -/

namespace AtomicCss.Markup

/-- The identifiers of a document type. -/
structure Doctype where
  publicId : Option Text
  systemId : Option Text
  deriving DecidableEq, Repr

/-- One token of a page. -/
inductive Token where
  | text (content : Text)
  /-- A `<` that starts nothing. -/
  | lessSign
  /-- A start tag. A `closed` one ends in a slash, and its element has no content. -/
  | startTag (tag : Text) (attributes : Attributes) (closed : Bool)
  /-- A start tag that the page ends in. -/
  | cutTag (tag : Text)
  | endTag (tag : Text)
  | comment (content : Text)
  | doctype (doctype : Doctype)
  deriving Repr

/-- White space between the parts of a tag. -/
def isSpace (c : Char) : Bool := c = ' ' || c = '\t' || c = '\n' || c = '\x0c' || c = '\r'

/-- The characters that end a tag's name. -/
def endsName (c : Char) : Bool := isSpace c || c = '/' || c = '>'

/-- How the content of an element is read. -/
inductive ContentKind where
  /-- Tags, texts and comments. -/
  | markup
  /-- Text with character references, up to the end tag. -/
  | escapedText
  /-- Text as it stands, up to the end tag. -/
  | rawText
  /-- As raw text, but an end tag inside a commented nested script does not count. -/
  | script
  /-- Text as it stands, up to the end of the page. -/
  | plainText
  deriving DecidableEq, Repr

/-- The elements whose content is raw text. -/
def rawTextTags : List String := ["iframe", "noembed", "noframes", "style", "xmp"]

/-- The elements whose content is text with references. -/
def escapedTextTags : List String := ["textarea", "title"]

/-- How the content of an element with this tag is read. -/
def ContentKind.ofTag (tag : Text) : ContentKind :=
  if tag = "script".toList then script
  else if tag = "plaintext".toList then plainText
  else if (rawTextTags.map String.toList).contains tag then rawText
  else if (escapedTextTags.map String.toList).contains tag then escapedText
  else markup

end AtomicCss.Markup
