import AtomicCss.Markup.Token.Content
import AtomicCss.Markup.Token.Tag
import AtomicCss.Text.Lines

/-! # Reading tokens

`Token.scan` cuts a page into tokens. A `<` that starts neither a tag nor a declaration stands for
itself, and an end tag that the page ends in is left out. -/

namespace AtomicCss.Markup

/-- The page as it is scanned: line ends are line feeds, and the null character is
replaced. -/
def normalizeInput (text : Text) : Text :=
  (Text.normalizeLineEnds text).map fun c => if c = '\x00' then replacementChar else c

/-- The token of a content text, if there is any text. -/
def contentTokens (tag content : Text) : List Token :=
  if content.isEmpty then []
  else if ContentKind.ofTag tag = .escapedText then [.text (decodeReferences false content)]
  else [.text content]

/-- The tokens that a `<` and the text after it start with, and the text after them. -/
def readAfterLess (text : Text) : List Token × Text :=
  match text with
  | '!' :: rest =>
      let (token, rest) := readDeclaration rest
      ([token], rest)
  | '?' :: _ =>
      let (content, rest) := readBogusComment text
      ([.comment content], rest)
  | '/' :: '>' :: rest => ([], rest)
  | '/' :: c :: rest =>
      if c.isAlpha then
        let (tag, rest) := readName (c :: rest)
        match readAttributes rest with
        | none => ([], [])
        | some (_, rest) => ([.endTag tag], rest)
      else
        let (content, rest) := readBogusComment (c :: rest)
        ([.comment content], rest)
  | c :: rest =>
      if c.isAlpha then
        let (tag, rest) := readName (c :: rest)
        match readAttributes rest with
        | none => ([.cutTag tag], [])
        | some (⟨attributes, closed⟩, rest) =>
            let (content, rest) := if closed then ([], rest) else splitContent tag rest
            (.startTag tag attributes closed :: contentTokens tag content, rest)
      else ([.lessSign], c :: rest)
  | [] => ([.lessSign], [])

/-- The tokens of a text, read in at most this many rounds. -/
def scanFor : Nat → Text → List Token
  | 0, _ => []
  | _ + 1, [] => []
  | rounds + 1, c :: rest =>
      if c = '<' then
        let (tokens, after) := readAfterLess rest
        tokens ++ scanFor rounds after
      else
        let (content, after) := (c :: rest).span (· ≠ '<')
        .text (decodeReferences false content) :: scanFor rounds after

/-- The tokens of a page. Each round takes at least one character. -/
def Token.scan (page : Text) : List Token :=
  let text := normalizeInput page
  scanFor (text.length + 1) text

end AtomicCss.Markup
