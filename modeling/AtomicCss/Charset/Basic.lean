import AtomicCss.Charset.Backslash
import AtomicCss.Charset.CodePage
import AtomicCss.Charset.CodeUnits
import AtomicCss.Charset.DomainName
import AtomicCss.Charset.EastAsian
import AtomicCss.Charset.Punycode
import AtomicCss.Charset.Utf7

/-! # Charsets

The charsets in which a text can be read and written as bytes. Decoding refuses bytes that are not
in the charset, and encoding refuses characters that it does not have. -/

namespace AtomicCss

/-- A charset. In UTF-16 and UTF-32 a text starts with a mark unless the order of the bytes is
given. -/
inductive Charset where
  | utf8
  | latin1
  | ascii
  /-- UTF-8 with a mark at the start, which may be missing in a text that is read. -/
  | markedUtf8
  | utf16 (order : Option Charset.ByteOrder)
  | utf32 (order : Option Charset.ByteOrder)
  | utf7
  /-- Latin-1 in which a backslash starts a sequence for another character: any of the sequences,
  or only those that give a code point. -/
  | backslash (all : Bool)
  | codePage (page : Charset.CodePage)
  | eastAsian (charset : Charset.EastAsian)
  | punycode
  | domainName
  deriving DecidableEq, Repr

namespace Charset

/-- The text that bytes stand for in UTF-8. -/
def decodeUtf8? (bytes : Bytes) : Option Text :=
  (ByteArray.mk bytes.toArray).utf8Decode?.map Array.toList

/-- The bytes of a text in UTF-8. -/
def encodeUtf8 (text : Text) : Bytes := text.flatMap String.utf8EncodeChar

/-- The text that bytes stand for. -/
def decode : Charset → Bytes → Option Text
  | utf8, bytes => decodeUtf8? bytes
  | latin1, bytes => some (bytes.map fun byte => Char.ofNat byte.toNat)
  | ascii, bytes =>
      if bytes.all (· < 0x80) then some (bytes.map fun byte => Char.ofNat byte.toNat) else none
  | markedUtf8, bytes =>
      let mark := encodeUtf8 [byteOrderMark]
      decodeUtf8? (if mark.isPrefixOf bytes then bytes.drop mark.length else bytes)
  | utf16 (some order), bytes => Utf16.decode? order bytes
  | utf16 none, bytes => decodeMarked? Utf16.encode Utf16.decode? bytes
  | utf32 (some order), bytes => Utf32.decode? order bytes
  | utf32 none, bytes => decodeMarked? Utf32.encode Utf32.decode? bytes
  | utf7, bytes => Utf7.decode? bytes
  | backslash all, bytes => Backslash.decode? all bytes
  | codePage page, bytes => page.decode? bytes
  | eastAsian charset, bytes => charset.decode? bytes
  | punycode, bytes => Punycode.decode? bytes
  | domainName, bytes => DomainName.decode? bytes

/-- The bytes of a text. A mark is always written, and the lowest byte after it first. -/
def encode : Charset → Text → Option Bytes
  | utf8, text => some (encodeUtf8 text)
  | latin1, text =>
      if text.all (·.toNat < 0x100) then some (text.map fun c => c.toNat.toUInt8) else none
  | ascii, text =>
      if text.all (·.toNat < 0x80) then some (text.map fun c => c.toNat.toUInt8) else none
  | markedUtf8, text => some (encodeUtf8 (byteOrderMark :: text))
  | utf16 (some order), text => some (Utf16.encode order text)
  | utf16 none, text => some (Utf16.encode .lowFirst (byteOrderMark :: text))
  | utf32 (some order), text => some (Utf32.encode order text)
  | utf32 none, text => some (Utf32.encode .lowFirst (byteOrderMark :: text))
  | utf7, text => some (Utf7.encode text)
  | backslash all, text => some (Backslash.encode all text)
  | codePage page, text => page.encode? text
  | eastAsian charset, text => charset.encode? text
  | punycode, text => some (Punycode.encode text)
  | domainName, text => DomainName.encode? text

end Charset
end AtomicCss
