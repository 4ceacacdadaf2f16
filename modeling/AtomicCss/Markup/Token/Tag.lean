import AtomicCss.Markup.Reference
import AtomicCss.Markup.Token

/-! # Reading tags

A tag has a name and attributes. White space and slashes part the attributes, and of two
attributes with one name the first counts. A slash right before the `>` ends the element. -/

namespace AtomicCss.Markup

/-- The most bytes that a name has. -/
def nameLimit : Nat := 100

/-- The characters that fit one after the other into this many bytes. One that does not fit is
left out. -/
def fitBytes : Nat → Text → Text
  | _, [] => []
  | room, c :: rest =>
      if c.utf8Size ≤ room then c :: fitBytes (room - c.utf8Size) rest else fitBytes room rest

/-- A name as it is kept: in lowercase, and not longer than the limit. -/
def foldName (name : Text) : Text := fitBytes nameLimit (Text.lowercase name)

/-- A name and the text after it. -/
def readName (text : Text) : Text × Text :=
  let (name, rest) := text.span fun c => !endsName c
  (foldName name, rest)

/-- The value after an equals sign, with references decoded, and the text after it. -/
def readAttributeValue (text : Text) : Text × Text :=
  let (value, rest) := match text with
    | '"' :: quoted =>
        let (value, rest) := quoted.span (· ≠ '"')
        (value, rest.drop 1)
    | '\'' :: quoted =>
        let (value, rest) := quoted.span (· ≠ '\'')
        (value, rest.drop 1)
    | bare => bare.span fun c => !isSpace c && c ≠ '>'
  (decodeReferences true value, rest)

/-- One attribute, whose name starts with `first`, and the text after it. -/
def readAttribute (first : Char) (text : Text) : Text × Option Text × Text :=
  let (more, rest) := text.span fun c => !endsName c && c ≠ '='
  let name := foldName (first :: more)
  match rest.dropWhile isSpace with
  | '=' :: value =>
      let (value, rest) := readAttributeValue (value.dropWhile isSpace)
      (name, some value, rest)
  | rest => (name, none, rest)

/-- The text after white space and after slashes that do not end a tag. -/
def skipGap : Text → Text
  | [] => []
  | c :: rest =>
      if isSpace c || (c = '/' && rest.head? ≠ some '>') then skipGap rest else c :: rest

/-- A tag after its name: its attributes, and whether it ends in a slash. -/
structure TagEnding where
  attributes : Attributes
  closed : Bool

/-- The rest of a tag and the text after the tag. Each round reads one attribute; the page may
end before the tag does. -/
def readAttributesFor : Nat → Attributes → Text → Option (TagEnding × Text)
  | 0, _, _ => none
  | rounds + 1, attributes, text =>
      match skipGap text with
      | [] => none
      | '>' :: rest => some (⟨attributes, false⟩, rest)
      | '/' :: '>' :: rest => some (⟨attributes, true⟩, rest)
      | first :: rest =>
          let (name, value, rest) := readAttribute first rest
          let attributes :=
            if OrderedMap.has name attributes then attributes
            else OrderedMap.set name value attributes
          readAttributesFor rounds attributes rest

/-- The rest of a tag and the text after the tag, unless the page ends in it. -/
def readAttributes (text : Text) : Option (TagEnding × Text) :=
  readAttributesFor (text.length + 1) [] text

end AtomicCss.Markup
