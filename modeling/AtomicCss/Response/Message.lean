import AtomicCss.Charset.ByteOrder
import AtomicCss.Response.Header
import AtomicCss.Value

/-! # Messages

A response is sent as messages: a start with the headers, and then pieces of the body. -/

namespace AtomicCss.Response

/-- One message. Fields without a meaning here are kept as they are. -/
structure Message where
  kind : Text
  headers : Option Headers
  body : Option Bytes
  moreBody : Option Value
  others : List (Text × Value)
  deriving Repr

namespace Message

/-- The kind of the message that starts a response. -/
def startKind : Text := "http.response.start".toList

/-- The kind of the messages that carry the body. -/
def bodyKind : Text := "http.response.body".toList

/-- Whether a message starts a response. -/
def isStart (message : Message) : Bool := message.kind = startKind

/-- Whether a message carries a part of the body. -/
def isBody (message : Message) : Bool := message.kind = bodyKind

/-- Whether more of the body follows. -/
def hasMore (message : Message) : Bool := message.moreBody.any Value.isTrue

/-- The headers, none if the field is missing. -/
def headerList (message : Message) : Headers := message.headers.getD []

/-- The part of the body, empty if the field is missing. -/
def bodyPart (message : Message) : Bytes := message.body.getD []

/-- A message with the whole body. -/
def wholeBody (body : Bytes) : Message := ⟨bodyKind, none, some body, some (.bool false), []⟩

end Message
end AtomicCss.Response
