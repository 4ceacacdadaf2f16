import AtomicCss.Charset.Basic
import AtomicCss.Charset.CodePageTable

/-! # Names of charsets

A response gives the name of its charset. Names are compared in a plain form, in which case and
punctuation make no difference. -/

namespace AtomicCss.Charset

/-- What is known under a name. -/
inductive Coding where
  | charset (charset : Charset)
  /-- A coding that does not stand between texts and bytes. -/
  | other
  /-- A coding in which nothing can be read or written. -/
  | undefined
  deriving DecidableEq, Repr

namespace Coding

/-- The East Asian charsets with their names in plain form, and with further names. -/
def eastAsian : List (String × List String × EastAsian) :=
  [("shift_jis", ["csshiftjis", "s_jis", "shiftjis", "sjis", "x_mac_japanese"], .shiftJis),
    ("cp932", ["932", "ms932", "ms_kanji", "mskanji"], .cp932),
    ("euc_jp", ["eucjp", "u_jis", "ujis"], .eucJp),
    ("euc_jis_2004", ["euc_jis2004", "eucjis2004", "jisx0213"], .eucJisX0213 .year2004),
    ("euc_jisx0213", ["eucjisx0213"], .eucJisX0213 .year2000),
    ("shift_jis_2004", ["s_jis_2004", "shiftjis2004", "sjis_2004"], .shiftJisX0213 .year2004),
    ("shift_jisx0213", ["s_jisx0213", "shiftjisx0213", "sjisx0213"], .shiftJisX0213 .year2000),
    ("iso2022_jp", ["csiso2022jp", "iso2022jp", "iso_2022_jp"],
      .iso2022 (.plain [.jisX0208, .roman, .oldJisX0208])),
    ("iso2022_jp_1", ["iso2022jp_1", "iso_2022_jp_1"],
      .iso2022 (.plain [.jisX0208, .jisX0212, .roman, .oldJisX0208])),
    ("iso2022_jp_2", ["iso2022jp_2", "iso_2022_jp_2"],
      .iso2022 ⟨[.jisX0208, .jisX0212, .ksX1001, .gb2312, .roman, .oldJisX0208, .western, .greek],
        false, true⟩),
    ("iso2022_jp_3", ["iso2022jp_3", "iso_2022_jp_3"],
      .iso2022 (.plain [.jisX0208, .firstPlane .year2000, .secondPlane .year2000])),
    ("iso2022_jp_2004", ["iso2022jp_2004", "iso_2022_jp_2004"],
      .iso2022 (.plain [.jisX0208, .firstPlane .year2004, .secondPlane .year2004])),
    ("iso2022_jp_ext", ["iso2022jp_ext", "iso_2022_jp_ext"],
      .iso2022 (.plain [.jisX0208, .jisX0212, .roman, .katakana, .oldJisX0208])),
    ("iso2022_kr", ["csiso2022kr", "iso2022kr", "iso_2022_kr"],
      .iso2022 ⟨[.ksX1001], true, false⟩),
    ("gb2312",
      ["chinese", "csiso58gb231280", "euc_cn", "euccn", "eucgb2312_cn", "gb2312_1980", "gb2312_80",
        "iso_ir_58", "x_mac_simp_chinese"],
      .gb2312),
    ("gbk", ["936", "cp936", "ms936"], .gbk), ("gb18030", ["gb18030_2000"], .gb18030),
    ("hz", ["hz_gb", "hz_gb_2312", "hzgb"], .hz),
    ("big5", ["big5_tw", "csbig5", "x_mac_trad_chinese"], .big5),
    ("cp950", ["950", "ms950"], .cp950),
    ("big5hkscs", ["big5_hkscs", "hkscs"], .big5HongKong),
    ("euc_kr",
      ["euckr", "korean", "ks_c_5601", "ks_c_5601_1987", "ks_x_1001", "ksc5601", "ksx1001",
        "x_mac_korean"],
      .eucKr),
    ("cp949", ["949", "ms949", "uhc"], .cp949), ("johab", ["cp1361", "ms1361"], .johab)]

/-- The codings with their names in plain form, and with further names. -/
def named : List (String × List String × Coding) :=
  [("utf_8", ["u8", "utf", "utf8", "utf8_ucs2", "utf8_ucs4", "cp65001"], charset .utf8),
    ("latin_1",
      ["8859", "cp819", "csisolatin1", "ibm819", "iso8859", "iso8859_1", "iso_8859_1",
        "iso_8859_1_1987", "iso_ir_100", "l1", "latin", "latin1"],
      charset .latin1),
    ("ascii",
      ["646", "ansi_x3.4_1968", "ansi_x3_4_1968", "ansi_x3.4_1986", "cp367", "csascii", "ibm367",
        "iso646_us", "iso_646.irv_1991", "iso_ir_6", "us", "us_ascii"],
      charset .ascii),
    ("utf_8_sig", [], charset .markedUtf8),
    ("utf_16", ["u16", "utf16"], charset (.utf16 none)),
    ("utf_16_le", ["unicodelittleunmarked", "utf_16le"], charset (.utf16 (some .lowFirst))),
    ("utf_16_be", ["unicodebigunmarked", "utf_16be"], charset (.utf16 (some .highFirst))),
    ("utf_32", ["u32", "utf32"], charset (.utf32 none)),
    ("utf_32_le", ["utf_32le"], charset (.utf32 (some .lowFirst))),
    ("utf_32_be", ["utf_32be"], charset (.utf32 (some .highFirst))),
    ("utf_7", ["u7", "utf7", "unicode_1_1_utf_7"], charset .utf7),
    ("unicode_escape", [], charset (.backslash true)),
    ("punycode", [], charset .punycode), ("idna", [], charset .domainName),
    ("raw_unicode_escape", [], charset (.backslash false)), ("charmap", [], charset .latin1),
    ("base64_codec", ["base64", "base_64"], other), ("bz2_codec", ["bz2"], other),
    ("hex_codec", ["hex"], other),
    ("quopri_codec", ["quopri", "quoted_printable", "quotedprintable"], other),
    ("rot_13", ["rot13"], other), ("uu_codec", ["uu"], other),
    ("zlib_codec", ["zip", "zlib"], other), ("undefined", [], undefined)] ++
    (eastAsian.map fun (name, aliases, set) => (name, aliases, charset (.eastAsian set))) ++
    CodePage.singleByte.map fun page => (page.name, page.aliases, charset (.codePage page))

/-- Whether a character belongs to a name. -/
def isNameChar (c : Char) : Bool := c.isAlphanum || c = '.'

/-- The plain form of a name: lowercase words with one underscore between them. -/
def plainName (name : Text) : Text :=
  let spaced := name.map fun c => if isNameChar c then c.toLower else '_'
  Text.joinWith ['_'] ((Text.splitOn '_' spaced).filter fun word => !word.isEmpty)

/-- The coding that has this further name. -/
def ofAlias? (name : Text) : Option Coding :=
  (named.find? fun (_, aliases, _) => aliases.any (·.toList = name)).map fun (_, _, coding) =>
    coding

/-- The coding with this name. Further names come first, and in these an underscore may be
written as a dot. -/
def ofName? (name : Text) : Option Coding :=
  let plain := plainName name
  ofAlias? plain <|> ofAlias? (plain.map fun c => if c = '.' then '_' else c) <|>
    (named.find? fun (key, _, _) => key.toList = plain).map fun (_, _, coding) => coding

end Coding
end AtomicCss.Charset
