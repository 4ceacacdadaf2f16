import AtomicCss.Text.Basic

/-! # URI references

A URI reference has a scheme before its first colon or none, then a hierarchical part, and after
a question mark a query and after a number sign a fragment. Outside its delimiters a character
that may not stand in a part is written as a percent sign with two hexadecimal digits. -/

namespace AtomicCss.Text

/-- Whether a character is a hexadecimal digit. -/
def isHexDigit (c : Char) : Bool := c.isDigit || ('a' ≤ c && c ≤ 'f') || ('A' ≤ c && c ≤ 'F')

/-- Whether a text holds only allowed characters and percent signs with two digits. -/
def isPercentEncoded (allowed : Char → Bool) : Text → Bool
  | '%' :: a :: b :: rest => isHexDigit a && isHexDigit b && isPercentEncoded allowed rest
  | c :: rest => c ≠ '%' && allowed c && isPercentEncoded allowed rest
  | [] => true

/-- Whether a character may stand in every part of a reference. -/
def isUriChar (c : Char) : Bool := c.isAlphanum || "-._~!$&'()*+,;=".toList.contains c

/-- Whether a character may stand in a path. -/
def isPathChar (c : Char) : Bool := isUriChar c || c = ':' || c = '@' || c = '/'

/-- Whether a text is a scheme: a letter, and then letters, digits and three signs. -/
def isScheme (text : Text) : Bool :=
  match text with
  | [] => false
  | c :: rest => c.isAlpha && rest.all fun d => d.isAlphanum || d = '+' || d = '-' || d = '.'

/-- Whether a text is a host, with a colon and a number after it or without. An address in
brackets is not looked into. -/
def isHost (text : Text) : Bool :=
  let (ended, after) := match text with
    | '[' :: rest => let (_, after) := cut ']' rest; (after.isSome, after.getD [])
    | text =>
        let name := text.takeWhile (· ≠ ':')
        (isPercentEncoded isUriChar name, text.drop name.length)
  ended &&
    match after with
    | [] => true
    | c :: digits => c = ':' && !digits.isEmpty && digits.all Char.isDigit

/-- Whether a text is a host, with the name of a user and an at sign before it or without. -/
def isAuthority (text : Text) : Bool :=
  match cut '@' text with
  | (user, some host) => isPercentEncoded (fun c => isUriChar c || c = ':') user && isHost host
  | (host, none) => isHost host

/-- Whether a text is a path, with an authority between two slashes and it or without. -/
def isHierarchy : Text → Bool
  | '/' :: '/' :: rest =>
      isAuthority (rest.takeWhile (· ≠ '/')) &&
        isPercentEncoded isPathChar (rest.dropWhile (· ≠ '/'))
  | path => isPercentEncoded isPathChar path

/-- Whether a text is a URI reference without query and fragment. Where there is no scheme, no
colon stands in the first part of the path. -/
def isPlainReference (text : Text) : Bool :=
  match cut ':' text with
  | (_, none) => isHierarchy text
  | (before, some after) =>
      if isScheme before then isHierarchy after else '/' ∈ before && isHierarchy text

/-- Whether a text is a URI reference. -/
def isUriReference (text : Text) : Bool :=
  let (text, fragment) := cut '#' text
  let (text, query) := cut '?' text
  let isTail (part : Option Text) : Bool :=
    isPercentEncoded (fun c => isPathChar c || c = '?') (part.getD [])
  isPlainReference text && isTail query && isTail fragment

end AtomicCss.Text
