import AtomicCss.Markup.Nesting

/-! # Writing trees

A tree is written as HTML. Void elements and empty list items have no end tag, the content of
`script` and `style` is written as it stands, and boolean attributes are written without a
value. -/

namespace AtomicCss.Markup

/-- One character of a text or a value. -/
def escapeChar (c : Char) : Text :=
  if c = '&' then "&amp;".toList
  else if c = '<' then "&lt;".toList
  else if c = '>' then "&gt;".toList
  else [c]

/-- A text with its markup characters escaped. -/
def escapeText (text : Text) : Text := text.flatMap escapeChar

/-- The number of characters from the start of a text to the end of `ending`, zero without
one. -/
def widthThrough (ending text : Text) : Nat :=
  match Text.around ending text with
  | some (before, _) => before.length + ending.length
  | none => 0

/-- The number of characters at the start of a value that are written as they stand: those of a
comment, or of a script between `&{` and `}`. -/
def verbatimWidth (value : Text) : Nat :=
  if ['<', '!', '-', '-'].isPrefixOf value then widthThrough ['-', '-', '>'] value
  else if ['&', '{'].isPrefixOf value then widthThrough ['}'] value
  else 0

/-- A value with its markup characters escaped after its first `verbatim` characters. -/
def escapeValueAfter : Nat → Text → Text
  | _, [] => []
  | verbatim + 1, c :: rest => c :: escapeValueAfter verbatim rest
  | 0, c :: rest =>
      match verbatimWidth (c :: rest) with
      | 0 => escapeChar c ++ escapeValueAfter 0 rest
      | width + 1 => c :: escapeValueAfter width rest

/-- A value of an attribute with its markup characters escaped. -/
def escapeValue (value : Text) : Text := escapeValueAfter 0 value

/-- The attributes that are always written without a value. -/
def booleanAttributes : List String :=
  ["checked", "compact", "declare", "defer", "disabled", "ismap", "multiple", "nohref",
    "noresize", "noshade", "nowrap", "readonly", "selected"]

/-- Whether an attribute holds an address. -/
def holdsAddress (tag name : Text) : Bool :=
  ["href", "action", "src"].any (·.toList = name) || (name = "name".toList && tag = ['a'])

/-- Whether a character of an address is written as it stands. -/
def isAddressChar (c : Char) : Bool :=
  c.isAlphanum || "-_.!~*'()\"#$%&+,/:;<=>?@[\\]^`\x7b|\x7d".toList.contains c

/-- A byte as a percent sign and two uppercase hexadecimal digits. -/
def percentByte (byte : UInt8) : Text :=
  let digits := (Nat.toDigits 16 byte.toNat).map Char.toUpper
  '%' :: List.replicate (2 - digits.length) '0' ++ digits

/-- An address without leading white space and with every other character that may not stand in
it percent-encoded. -/
def escapeAddress (address : Text) : Text :=
  (address.dropWhile fun c => c = ' ' || c = '\t' || c = '\n' || c = '\r').flatMap fun c =>
    if isAddressChar c then [c] else (String.utf8EncodeChar c).flatMap percentByte

/-- A value between quotes: double ones, or single ones if that saves escaping. -/
def quoteValue (value : Text) : Text :=
  if '"' ∈ value ∧ '\'' ∉ value then '\'' :: value ++ ['\'']
  else '"' :: value.flatMap (fun c => if c = '"' then "&quot;".toList else [c]) ++ ['"']

/-- An attribute of an element with this tag, with a space in front. -/
def printAttribute (tag : Text) (name : Text) (value : Option Text) : Text :=
  match value with
  | none => ' ' :: name
  | some value =>
      if booleanAttributes.any (·.toList = name) then ' ' :: name
      else
        let escaped := escapeValue value
        let escaped := if holdsAddress tag name then escapeAddress escaped else escaped
        ' ' :: name ++ ['='] ++ quoteValue escaped

/-- The tag of list items. -/
def itemTag : Text := "li".toList

/-- Whether an element is written without an end tag. -/
def lacksEnd (tag : Text) (children : List Node) : Bool :=
  isVoid tag || (tag = itemTag && children.isEmpty)

/-- Whether the content of an element is written as it stands. -/
def hasRawContent (tag : Text) : Bool := tag = "script".toList || tag = "style".toList

mutual

/-- A node as HTML. Texts are escaped unless `raw` holds. -/
def printNode (raw : Bool) : Node → Text
  | .text content => if raw then content else escapeText content
  | .comment content => "<!--".toList ++ content ++ "-->".toList
  | .instruction target content =>
      ['<', '?'] ++ target ++ ' ' :: content ++ ['>']
  | .element tag attributes children =>
      let start := '<' :: tag ++
        attributes.flatMap (fun (name, value) => printAttribute tag name value) ++ ['>']
      if lacksEnd tag children then start
      else start ++ printNodes (hasRawContent tag) children ++ ['<', '/'] ++ tag ++ ['>']

/-- Nodes one after the other. -/
def printNodes (raw : Bool) : List Node → Text
  | [] => []
  | node :: rest => printNode raw node ++ printNodes raw rest

end

/-- How a `meta` element that names the content type starts. -/
def contentTypeMeta : Text := "<meta http-equiv=\"Content-Type\"".toList

/-- The number of characters that such an element at the start of a text takes, zero if there
is none. -/
def contentTypeMetaWidth (text : Text) : Nat :=
  if contentTypeMeta.isPrefixOf text then
    let rest := text.drop contentTypeMeta.length
    if rest.contains '>' then
      contentTypeMeta.length + (rest.takeWhile (· ≠ '>')).length + 1
    else 0
  else 0

/-- The text after its first `skipped` characters, without content type elements. -/
def dropContentTypeMetaAfter : Nat → Text → Text
  | _, [] => []
  | skipped + 1, _ :: rest => dropContentTypeMetaAfter skipped rest
  | 0, c :: rest =>
      match contentTypeMetaWidth (c :: rest) with
      | 0 => c :: dropContentTypeMetaAfter 0 rest
      | width + 1 => dropContentTypeMetaAfter width rest

/-- The text without content type elements: the page is text, and its sender names the
charset. -/
def dropContentTypeMeta (text : Text) : Text := dropContentTypeMetaAfter 0 text

end AtomicCss.Markup
