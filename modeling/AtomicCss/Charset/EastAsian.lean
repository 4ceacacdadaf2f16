import AtomicCss.Charset.Escapes

/-! # East Asian charsets -/

namespace AtomicCss.Charset

/-- A charset for Japanese, Chinese or Korean. -/
inductive EastAsian where
  | shiftJis
  | cp932
  | eucJp
  | eucJisX0213 (edition : JisX0213.Edition)
  | shiftJisX0213 (edition : JisX0213.Edition)
  | gb2312
  | gbk
  | gb18030
  | big5
  | cp950
  | big5HongKong
  | eucKr
  | cp949
  | johab
  | hz
  | iso2022 (variant : Iso2022.Variant)
  deriving DecidableEq, Repr

namespace EastAsian

/-- The sequences of a charset, if it has no escapes. -/
def sequences? : EastAsian → Option ByteSequences
  | shiftJis => some Charset.shiftJis
  | cp932 => some Charset.cp932
  | eucJp => some Charset.eucJp
  | eucJisX0213 edition => some (JisX0213.euc edition)
  | shiftJisX0213 edition => some (JisX0213.shift edition)
  | gb2312 => some Charset.gb2312
  | gbk => some Charset.gbk
  | gb18030 => some Charset.gb18030
  | big5 => some Charset.big5
  | cp950 => some Charset.cp950
  | big5HongKong => some Charset.big5HongKong
  | eucKr => some Charset.eucKr
  | cp949 => some Charset.cp949
  | johab => some Charset.johab
  | hz => none
  | iso2022 _ => none

/-- The text that bytes stand for. -/
def decode? (charset : EastAsian) (bytes : Bytes) : Option Text :=
  match charset with
  | hz => Hz.decodeFrom? false bytes
  | iso2022 variant => Iso2022.decode? variant bytes
  | charset => charset.sequences?.bind fun sequences => sequences.decode? bytes

/-- The bytes of a text. -/
def encode? (charset : EastAsian) (text : Text) : Option Bytes :=
  match charset with
  | hz => Hz.encodeFrom? false text
  | iso2022 variant => Iso2022.encode? variant text
  | charset => charset.sequences?.bind fun sequences => sequences.encode? text

end EastAsian
end AtomicCss.Charset
