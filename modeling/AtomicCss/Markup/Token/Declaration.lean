import AtomicCss.Markup.Token

/-! # Comments and document types -/

namespace AtomicCss.Markup

/-- What a page may break off with when it ends in the end of a comment. -/
def brokenCommentEnds : List Text := [['-'], ['-', '-'], ['-', '-', '!']]

/-- The content of a comment whose start has been read, and the text after its end. Both `-->`
and `--!>` end a comment, and so does the end of the page, with what it leaves of these two. -/
def readCommentContent : Text → Text × Text
  | [] => ([], [])
  | c :: rest =>
      if brokenCommentEnds.contains (c :: rest) then ([], [])
      else if ['-', '-', '>'].isPrefixOf (c :: rest) then ([], rest.drop 2)
      else if ['-', '-', '!', '>'].isPrefixOf (c :: rest) then ([], rest.drop 3)
      else
        let (content, after) := readCommentContent rest
        (c :: content, after)

/-- A comment after `<!--`. It may end right away with `>` or `->`. -/
def readComment : Text → Text × Text
  | '>' :: rest => ([], rest)
  | '-' :: '>' :: rest => ([], rest)
  | text => readCommentContent text

/-- The text up to the next `>`, and what follows it. -/
def readBogusComment (text : Text) : Text × Text :=
  let (content, rest) := text.span (· ≠ '>')
  (content, rest.drop 1)

/-- Whether a text starts with a word of lowercase letters, in either case. -/
def startsWithWord (word text : Text) : Bool :=
  word.isPrefixOf (Text.lowercase (text.take word.length))

/-- A quoted identifier and the text after it. -/
def readIdentifier? (text : Text) : Option (Text × Text) :=
  match text.dropWhile isSpace with
  | '"' :: quoted =>
      let (identifier, rest) := quoted.span (· ≠ '"')
      some (identifier, rest.drop 1)
  | '\'' :: quoted =>
      let (identifier, rest) := quoted.span (· ≠ '\'')
      some (identifier, rest.drop 1)
  | _ => none

/-- The document type whose declaration has this content. -/
def Doctype.ofContent (content : Text) : Doctype :=
  let afterName := ((content.dropWhile isSpace).dropWhile fun c => !isSpace c).dropWhile isSpace
  if startsWithWord "public".toList afterName then
    match readIdentifier? (afterName.drop 6) with
    | none => ⟨none, none⟩
    | some (publicId, rest) => ⟨some publicId, (readIdentifier? rest).map Prod.fst⟩
  else if startsWithWord "system".toList afterName then
    ⟨none, (readIdentifier? (afterName.drop 6)).map Prod.fst⟩
  else ⟨none, none⟩

/-- What follows `<!`: a comment, a document type, or anything else up to the next `>`. -/
def readDeclaration (text : Text) : Token × Text :=
  match text with
  | '-' :: '-' :: rest =>
      let (content, rest) := readComment rest
      (.comment content, rest)
  | text =>
      let (content, rest) := readBogusComment text
      if startsWithWord "doctype".toList content then
        (.doctype (Doctype.ofContent (content.drop 7)), rest)
      else (.comment content, rest)

end AtomicCss.Markup
