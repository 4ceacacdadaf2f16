import AtomicCss.Charset.CharTable

/-! # Names of domains

The coding of the names of domains, as far as it needs no table of characters: a text of ASCII is cut
into labels at its dots, and stays as it is if no label is too long. -/

namespace AtomicCss.Charset.DomainName

/-- What a label starts with that stands for other characters. -/
def codedStart : Text := "xn--".toList

/-- The number of characters that a label is shorter than. -/
def labelLimit : Nat := 64

/-- The text that bytes stand for, if no label is coded. -/
def decode? (bytes : Bytes) : Option Text :=
  let text := bytes.map asciiChar
  if bytes.all (· < 0x80) && !(Text.splitOn '.' text).any codedStart.isPrefixOf then some text
  else none

/-- The bytes of a text of ASCII. Only the last label may be empty. -/
def encode? (text : Text) : Option Bytes :=
  let labels := Text.splitOn '.' text
  if text.all (·.toNat < 0x80) && labels.all (·.length < labelLimit) &&
      labels.dropLast.all (!·.isEmpty) then
    some (text.map fun c => c.toNat.toUInt8)
  else none

end AtomicCss.Charset.DomainName
