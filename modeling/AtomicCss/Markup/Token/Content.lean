import AtomicCss.Markup.Token.Declaration

/-! # The text content of elements

Inside elements such as `style` and `title` there is only text. It ends before the end tag of
the element. -/

namespace AtomicCss.Markup

/-- Whether a text starts with `open` and `tag` and a character that ends a name. -/
def startsWithTag (opening tag text : Text) : Bool :=
  opening.isPrefixOf text && startsWithWord tag (text.drop opening.length) &&
    (text.drop (opening.length + tag.length)).head?.any endsName

/-- The text before the end tag of `tag`, and the text from there on. -/
def splitAtEndTag (tag : Text) : Text → Text × Text
  | [] => ([], [])
  | c :: rest =>
      if startsWithTag ['<', '/'] tag (c :: rest) then ([], c :: rest)
      else
        let (content, after) := splitAtEndTag tag rest
        (c :: content, after)

/-- How deep a place in a script is. -/
inductive ScriptDepth where
  | code
  /-- Inside `<!--` and `-->`. -/
  | commented
  /-- Inside a script that is nested in the comment. -/
  | nested
  deriving DecidableEq, Repr

/-- The tag of scripts. -/
def scriptTag : Text := "script".toList

/-- The text before the end tag that ends a script, and the text from there on. -/
def splitAtScriptEnd : ScriptDepth → Text → Text × Text
  | _, [] => ([], [])
  | depth, c :: rest =>
      let here := c :: rest
      let ends := startsWithTag ['<', '/'] scriptTag here
      if ends && depth ≠ .nested then ([], here)
      else
        let next : ScriptDepth :=
          match depth with
          | .code => if ['<', '!', '-', '-'].isPrefixOf here then .commented else .code
          | .commented =>
              if ['-', '-', '>'].isPrefixOf here then .code
              else if startsWithTag ['<'] scriptTag here then .nested
              else .commented
          | .nested =>
              if ['-', '-', '>'].isPrefixOf here then .code
              else if ends then .commented
              else .nested
        let (content, after) := splitAtScriptEnd next rest
        (c :: content, after)

/-- The text content of an element with this tag, and the text from its end tag on. -/
def splitContent (tag text : Text) : Text × Text :=
  match ContentKind.ofTag tag with
  | .markup => ([], text)
  | .escapedText => splitAtEndTag tag text
  | .rawText => splitAtEndTag tag text
  | .script => splitAtScriptEnd .code text
  | .plainText => (text, [])

end AtomicCss.Markup
