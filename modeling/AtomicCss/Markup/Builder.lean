import AtomicCss.Markup.Nesting

/-! # Building trees from tokens

Tokens are put one after the other into a tree that is still open. Missing `html`, `head` and
`body` elements are supplied, open elements end where the nesting rules say so, and a second
`html`, `head` or `body` inside the first is left out together with its end tag. An element that
would be nested too deep ends the reading. -/

namespace AtomicCss.Markup

/-- An element whose end has not been reached, with its children so far, the last one first. -/
structure OpenElement where
  tag : Text
  attributes : Attributes
  children : List Node

/-- A tree that is still open. -/
structure Builder where
  /-- The open elements, the innermost first. -/
  stack : List OpenElement
  /-- The finished nodes outside every element, the last one first. -/
  roots : List Node
  headSeen : Bool
  bodySeen : Bool
  /-- The number of start tags left out whose end tags have not come yet. -/
  leftOut : Nat
  doctype : Option Doctype
  /-- Whether an element was nested too deep; nothing after it is read. -/
  stopped : Bool

/-- The most elements that can be open. -/
def depthLimit : Nat := 256

/-- The tags of the elements that frame a page. -/
def htmlTag : Text := "html".toList

/-- The tag of the head. -/
def headTag : Text := "head".toList

/-- The tag of the body. -/
def bodyTag : Text := "body".toList

/-- The tag of paragraphs. -/
def paragraphTag : Text := "p".toList

/-- A list of nodes, the last one first, with one more. Texts next to each other become one. -/
def addLast (node : Node) (nodes : List Node) : List Node :=
  match node, nodes with
  | .text more, .text content :: rest => .text (content ++ more) :: rest
  | node, nodes => node :: nodes

namespace Builder

/-- Nothing read yet. -/
def empty : Builder := ⟨[], [], false, false, 0, none, false⟩

/-- The tag of the innermost open element. -/
def current? (builder : Builder) : Option Text := builder.stack.head?.map OpenElement.tag

/-- Whether an element with this tag is open. -/
def isOpen (tag : Text) (builder : Builder) : Bool :=
  builder.stack.any fun element => element.tag = tag

/-- Adds a finished node to the innermost open element. -/
def add (node : Node) (builder : Builder) : Builder :=
  match builder.stack with
  | [] => { builder with roots := node :: builder.roots }
  | element :: outer =>
      { builder with
        stack := { element with children := addLast node element.children } :: outer }

/-- Opens an element, or stops if too many are open. -/
def push (tag : Text) (attributes : Attributes) (builder : Builder) : Builder :=
  if depthLimit ≤ builder.stack.length then { builder with stopped := true }
  else
    { builder with
      stack := ⟨tag, attributes, []⟩ :: builder.stack
      headSeen := builder.headSeen || tag = headTag || tag = bodyTag
      bodySeen := builder.bodySeen || tag = bodyTag }

/-- Ends the innermost open element. -/
def pop (builder : Builder) : Builder :=
  match builder.stack with
  | [] => builder
  | element :: outer =>
      add (.element element.tag element.attributes element.children.reverse)
        { builder with stack := outer }

/-- Ends this many open elements. -/
def popMany : Nat → Builder → Builder
  | 0, builder => builder
  | count + 1, builder => popMany count builder.pop

/-- Ends the open elements that the start of `tag` ends. -/
def endBefore (tag : Text) (builder : Builder) : Builder :=
  popMany (builder.stack.takeWhile fun element => endsAtStart tag element.tag).length builder

/-- Supplies the elements that have to be open before `tag` starts. -/
def imply (tag : Text) (builder : Builder) : Builder :=
  if tag = htmlTag then builder
  else
    let builder := if builder.stack.isEmpty then builder.push htmlTag [] else builder
    if tag = headTag ∨ tag = bodyTag then builder
    else if builder.stack.length ≤ 1 ∧ headContentTags.any (·.toList = tag) then
      if builder.headSeen then builder else builder.push headTag []
    else if frameTags.any (·.toList = tag) then builder
    else if builder.bodySeen || builder.isOpen bodyTag || builder.isOpen headTag then builder
    else builder.push bodyTag []

/-- Whether a start tag stands where its element cannot be. -/
def isMisplaced (tag : Text) (builder : Builder) : Bool :=
  (tag = htmlTag && !builder.stack.isEmpty) ||
    (tag = headTag && builder.stack.length ≠ 1) ||
    (tag = bodyTag && builder.isOpen bodyTag)

/-- Ends and supplies the elements that the start of `tag` asks for. -/
def makeRoom (tag : Text) (builder : Builder) : Builder := (builder.endBefore tag).imply tag

/-- Reads a start tag. If its element is left out, a closed tag ends the element around it. -/
def startTag (tag : Text) (attributes : Attributes) (closed : Bool) (builder : Builder) :
    Builder :=
  let builder := builder.makeRoom tag
  if builder.isMisplaced tag then
    let builder := { builder with leftOut := builder.leftOut + 1 }
    if closed then builder.pop else builder
  else
    let builder := builder.push tag attributes
    if closed || isVoid tag then builder.pop else builder

/-- Reads an end tag. It ends the innermost element with its tag and all elements inside it,
unless one of these has a higher priority. -/
def endTag (tag : Text) (builder : Builder) : Builder :=
  if 0 < builder.leftOut ∧ (tag = htmlTag ∨ tag = headTag ∨ tag = bodyTag) then
    { builder with leftOut := builder.leftOut - 1 }
  else if !builder.isOpen tag then builder
  else
    let inside := builder.stack.takeWhile fun element => element.tag ≠ tag
    if inside.any fun element => endPriority tag < endPriority element.tag then builder
    else builder.popMany (inside.length + 1)

/-- Reads text inside the innermost open element. -/
def addText (content : Text) (builder : Builder) : Builder :=
  if content.isEmpty || builder.stack.isEmpty then builder else builder.add (.text content)

/-- Ends the head and supplies the body, as text asks for. -/
def makeRoomForText (builder : Builder) : Builder :=
  let builder :=
    if builder.current? = some headTag then builder.endBefore paragraphTag else builder
  builder.imply paragraphTag

/-- Reads text. Outside the body, leading white space stays where it is, and the rest starts
the body. -/
def text (content : Text) (builder : Builder) : Builder :=
  let current := builder.current?
  if current = none ∨ current = some htmlTag ∨ current = some headTag then
    let (space, rest) := content.span isSpace
    let builder := builder.addText space
    if rest.isEmpty then builder else builder.makeRoomForText.addText rest
  else builder.addText content

/-- Reads a `<` that starts nothing. It belongs into the body also where other text would not. -/
def lessSign (builder : Builder) : Builder := builder.makeRoomForText.addText ['<']

/-- Reads a document type. Only the first one counts, and only before any element. -/
def readDoctype (doctype : Doctype) (builder : Builder) : Builder :=
  if builder.stack.isEmpty && !builder.roots.any Node.isElement then
    { builder with doctype := builder.doctype <|> some doctype }
  else builder

/-- Reads one token. -/
def read (builder : Builder) (token : Token) : Builder :=
  if builder.stopped then builder
  else
    match token with
    | .text content => builder.text content
    | .lessSign => builder.lessSign
    | .startTag tag attributes closed => builder.startTag tag attributes closed
    | .cutTag tag => builder.makeRoom tag
    | .endTag tag => builder.endTag tag
    | .comment content => builder.add (.comment content)
    | .doctype doctype => builder.readDoctype doctype

/-- Ends every open element. -/
def finish (builder : Builder) : Builder := builder.popMany builder.stack.length

/-- The builder after all tokens, with every element ended. -/
def ofTokens (tokens : List Token) : Builder := (tokens.foldl read empty).finish

end Builder
end AtomicCss.Markup
