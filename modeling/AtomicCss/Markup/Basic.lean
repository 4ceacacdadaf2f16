import AtomicCss.OrderedMap

/-! # Markup trees

A page is a tree of elements, texts, comments and processing instructions. -/

namespace AtomicCss.Markup

/-- Attribute values by name. An attribute that is written without a value has `none`; it is
read as the empty text. -/
abbrev Attributes := OrderedMap (Option Text)

/-- The text of an attribute. -/
def Attributes.text? (name : Text) (attributes : Attributes) : Option Text :=
  (OrderedMap.get? name attributes).map fun value => value.getD []

/-- One node with everything below it. -/
inductive Node where
  | element (tag : Text) (attributes : Attributes) (children : List Node)
  | text (content : Text)
  | comment (content : Text)
  | instruction (target content : Text)
  deriving Repr

namespace Node

/-- Whether a node is a text. -/
def isText : Node → Bool
  | text _ => true
  | _ => false

/-- Whether a node is an element. -/
def isElement : Node → Bool
  | element _ _ _ => true
  | _ => false

/-- Whether a node is an element with this tag. -/
def hasTag (name : Text) : Node → Bool
  | element tag _ _ => tag = name
  | _ => false

/-- The children of an element. -/
def children : Node → List Node
  | element _ _ children => children
  | _ => []

/-- The nodes with `node` in front of the first one that is not a text. -/
def insertFirst (node : Node) (nodes : List Node) : List Node :=
  nodes.takeWhile isText ++ node :: nodes.dropWhile isText

end Node

/-- Whether a character may stand in XML text: no control character except tab, line feed and
carriage return, and neither of the two noncharacters U+FFFE and U+FFFF. -/
def isXmlChar (c : Char) : Bool :=
  let n := c.toNat
  n = 0x09 || n = 0x0A || n = 0x0D || (0x20 ≤ n && n ≠ 0xFFFE && n ≠ 0xFFFF)

/-- Whether a text can be put into a tree. -/
def isXmlText (text : Text) : Bool := text.all isXmlChar

end AtomicCss.Markup
