import AtomicCss.Text.Blank
import AtomicCss.Text.Numeral

/-! # Headers

Headers are looked up by their exact name. Which responses are restyled, and in which charset,
is read off the headers `content-type` and `content-encoding`. -/

namespace AtomicCss.Response

/-- Header names with their values, in order and with repetitions. -/
abbrev Headers := List (Text × Text)

namespace Headers

/-- The value of the first header with this name. -/
def get? (name : Text) (headers : Headers) : Option Text :=
  (headers.find? fun (key, _) => key = name).map Prod.snd

/-- Puts `value` in the place of the first header with this name and takes out the others, or
adds the header at the end. -/
def set (name value : Text) : Headers → Headers
  | [] => [(name, value)]
  | (key, old) :: rest =>
      if key = name then (name, value) :: rest.filter fun (key, _) => key ≠ name
      else (key, old) :: set name value rest

/-- The name of the header that gives the type of the body. -/
def contentType : Text := "content-type".toList

/-- The name of the header that gives the compression of the body. -/
def contentEncoding : Text := "content-encoding".toList

/-- The name of the header that gives the number of bytes of the body. -/
def contentLength : Text := "content-length".toList

/-- Whether a body is HTML. -/
def isHtml (headers : Headers) : Bool :=
  "text/html".toList.isPrefixOf ((get? contentType headers).getD [])

/-- Whether a body is not compressed. -/
def isIdentity (headers : Headers) : Bool :=
  match get? contentEncoding headers with
  | none => true
  | some [] => true
  | some encoding => Text.lowercase encoding.trim = "identity".toList

/-- A text without the double quotes at its ends. -/
def stripQuotes (text : Text) : Text :=
  ((text.dropWhile (· = '"')).reverse.dropWhile (· = '"')).reverse

/-- The value of a `charset` parameter. -/
def charsetOfParameter? (parameter : Text) : Option Text :=
  match Text.cut '=' parameter.trim with
  | (key, some value) =>
      if Text.lowercase key = "charset".toList ∧ value ≠ [] then some (stripQuotes value)
      else none
  | (_, none) => none

/-- The name of the charset that the content type gives, or else UTF-8. -/
def charsetName (headers : Headers) : Text :=
  let parameters := (Text.splitOn ';' ((get? contentType headers).getD [])).drop 1
  (parameters.findSome? charsetOfParameter?).getD "utf-8".toList

end Headers
end AtomicCss.Response
