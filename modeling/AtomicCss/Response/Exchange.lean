import AtomicCss.Charset.Coding
import AtomicCss.Pass.Basic
import AtomicCss.Response.Message

/-! # Exchanges

In an exchange, the start of an uncompressed HTML response is held back and the parts of its
body are collected. With the last part, the page is restyled, and the start and the whole body
are sent. All other messages are sent on as they are. -/

namespace AtomicCss.Response

/-- What is done with a charset: bytes are read, or a text is written. -/
inductive CodingStep where
  | decoding
  | encoding
  deriving DecidableEq, Repr

/-- Why a collected body cannot be sent. -/
inductive SendFault where
  | unknownCharset (name : Text)
  /-- The name of the charset holds the null character. -/
  | nullInCharset
  /-- The name of the charset is that of another coding. -/
  | notCharset (name : Text) (step : CodingStep)
  /-- The name of the charset is that of no coding. -/
  | undefinedCharset (step : CodingStep)
  | notDecodable
  | notEncodable
  | page (fault : Fault)
  deriving DecidableEq, Repr

/-- The wording of a fault, if it has one. -/
def SendFault.message? : SendFault → Option Text
  | unknownCharset name => some ("unknown encoding: ".toList ++ name)
  | nullInCharset => some "embedded null character".toList
  | notCharset name step =>
      let use := match step with
        | .decoding => "decode"
        | .encoding => "encode"
      some ('\'' :: name ++ "' is not a text encoding; use codecs.".toList ++ use.toList ++
        "() to handle arbitrary codecs".toList)
  | undefinedCharset step =>
      let verb := match step with
        | .decoding => "decoding"
        | .encoding => "encoding"
      some (verb.toList ++
        " with 'undefined' codec failed (UnicodeError: undefined encoding)".toList)
  | notDecodable => none
  | notEncodable => none
  | page fault => some fault.message

/-- The start message that is held back, and the parts of the body so far. -/
structure Exchange where
  held : Option Message
  parts : List Bytes

/-- What becomes of one message. -/
structure Sending where
  exchange : Exchange
  sent : List Message
  notices : List Notice
  outcome : Except SendFault Unit

namespace Exchange

/-- Nothing received yet. -/
def empty : Exchange := ⟨none, []⟩

/-- Sends messages and keeps the exchange as it is. -/
def pass (exchange : Exchange) (messages : List Message) : Sending :=
  ⟨exchange, messages, [], .ok ()⟩

/-- The bytes of a page after it has been restyled. -/
def renderBody (settings : Settings) (charset : Charset) (page : Text) :
    Logged SendFault Bytes :=
  let rendered := Pass.render settings page .empty
  match rendered.outcome with
  | .error fault => ⟨rendered.notices, .error (.page fault)⟩
  | .ok page =>
      match charset.encode page with
      | none => ⟨rendered.notices, .error .notEncodable⟩
      | some bytes => ⟨rendered.notices, .ok bytes⟩

/-- The bytes of the restyled body whose charset has this name. An empty body needs no decoding,
so that a coding is first used to write it. -/
def renderBytes (settings : Settings) (charsetName : Text) (body : Bytes) :
    Logged SendFault Bytes :=
  let first : CodingStep := if body.isEmpty then .encoding else .decoding
  if '\x00' ∈ charsetName then .fail .nullInCharset
  else
    match Charset.Coding.ofName? charsetName with
    | none => .fail (.unknownCharset charsetName)
    | some .other => .fail (.notCharset charsetName first)
    | some .undefined => .fail (.undefinedCharset first)
    | some (.charset charset) =>
        match charset.decode body with
        | none => .fail .notDecodable
        | some page => renderBody settings charset page

/-- Restyles the collected body and sends it after the start that was held back. Both stay in
the exchange. -/
def release (settings : Settings) (start : Message) (parts : List Bytes) : Sending :=
  let headers := start.headerList
  let rendered := renderBytes settings headers.charsetName parts.flatten
  match rendered.outcome with
  | .error fault => ⟨⟨some start, parts⟩, [], rendered.notices, .error fault⟩
  | .ok body =>
      let headers := headers.set Headers.contentLength (Text.ofNat body.length)
      let start := { start with headers := some headers }
      ⟨⟨some start, parts⟩, [start, .wholeBody body], rendered.notices, .ok ()⟩

/-- Receives one message of a response. -/
def receive (settings : Settings) (exchange : Exchange) (message : Message) : Sending :=
  if message.isStart then
    let headers := message.headerList
    if headers.isHtml && headers.isIdentity then
      pass { exchange with held := some { message with headers := some headers } } []
    else pass exchange [message]
  else
    match exchange.held with
    | none => pass exchange [message]
    | some start =>
        if !message.isBody then pass exchange [message]
        else
          let parts := exchange.parts ++ [message.bodyPart]
          if message.hasMore then pass { exchange with parts := parts } []
          else release settings start parts

/-- The scope whose responses are restyled. -/
def httpScope : Text := "http".toList

/-- Receives one message within a scope. -/
def receiveIn (settings : Settings) (scope : Text) (exchange : Exchange) (message : Message) :
    Sending :=
  if scope = httpScope then receive settings exchange message else pass exchange [message]

/-- What becomes of each message of a response. -/
def run (settings : Settings) (scope : Text) : Exchange → List Message → List Sending
  | _, [] => []
  | exchange, message :: rest =>
      let sending := receiveIn settings scope exchange message
      sending :: run settings scope sending.exchange rest

end Exchange
end AtomicCss.Response
