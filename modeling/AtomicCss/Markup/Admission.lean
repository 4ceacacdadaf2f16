import AtomicCss.Fault
import AtomicCss.Markup.Basic
import AtomicCss.Text.UriReference

/-! # Admission of trees

A tree that does not come from a page is admitted piece by piece: tag, attributes, and then what
is inside, in document order. The first piece that is not allowed in a tree is the fault. What
is admitted holds its names in one spelling and each attribute once. -/

namespace AtomicCss.Markup

/-- A name and the namespace that it belongs to, which is empty if it belongs to none. -/
structure QualifiedName where
  space : Text
  name : Text
  deriving DecidableEq, Repr

namespace QualifiedName

/-- Reads a name, before which the namespace may stand in braces. -/
def read (text : Text) : Except Fault QualifiedName :=
  if !isXmlText text then .error .notXmlText
  else
    match text with
    | [] => .error .emptyName
    | c :: rest =>
        if c ≠ '{' then .ok ⟨[], text⟩
        else
          match Text.cut '}' rest with
          | (_, none) => .error .unclosedNamespace
          | (_, some []) => .error .emptyName
          | (space, some name) => .ok ⟨space, name⟩

/-- The name with its namespace in braces before it, if it has one. -/
def print (name : QualifiedName) : Text :=
  if name.space.isEmpty then name.name else '{' :: name.space ++ '}' :: name.name

end QualifiedName

/-- Whether a character may stand in a tag: it is no white space, no quote, and does not delimit
markup. -/
def isTagChar (c : Char) : Bool := !"&<>/\"'\t\n\x0b\x0c\r ".toList.contains c

/-- A text as it is, if it is allowed in a tree. -/
def admitText (text : Text) : Except Fault Text :=
  if isXmlText text then .ok text else .error .notXmlText

/-- A tag in its spelling. Its namespace has to be a URI reference. -/
def admitTag (tag : Text) : Except Fault Text :=
  match QualifiedName.read tag with
  | .error fault => .error fault
  | .ok name =>
      if !name.name.all isTagChar then .error (.invalidTag name.name)
      else if !Text.isUriReference name.space then .error (.invalidNamespace name.space)
      else .ok name.print

/-- The attributes `given` with others set one after the other. -/
def admitAttributes (given : Attributes) : List (Text × Option Text) → Except Fault Attributes
  | [] => .ok given
  | (name, value) :: rest =>
      match QualifiedName.read name, admitText (value.getD []) with
      | .error fault, _ => .error fault
      | .ok _, .error fault => .error fault
      | .ok name, .ok _ => admitAttributes (OrderedMap.set name.print value given) rest

mutual

/-- The node as a tree holds it, or the first fault in it. -/
def admitNode : Node → Except Fault Node
  | .element tag attributes children =>
      match admitTag tag, admitAttributes [] attributes, admitNodes children with
      | .error fault, _, _ => .error fault
      | .ok _, .error fault, _ => .error fault
      | .ok _, .ok _, .error fault => .error fault
      | .ok tag, .ok attributes, .ok children => .ok (.element tag attributes children)
  | .text content => (admitText content).map .text
  | .comment content => (admitText content).map .comment
  | .instruction target content =>
      match admitText target, admitText content with
      | .error fault, _ => .error fault
      | .ok _, .error fault => .error fault
      | .ok target, .ok content => .ok (.instruction target content)

/-- The nodes as a tree holds them, or the first fault in them. -/
def admitNodes : List Node → Except Fault (List Node)
  | [] => .ok []
  | node :: rest =>
      match admitNode node, admitNodes rest with
      | .error fault, _ => .error fault
      | .ok _, .error fault => .error fault
      | .ok node, .ok rest => .ok (node :: rest)

end

end AtomicCss.Markup
