import AtomicCss.Charset.Big5Table
import AtomicCss.Charset.ChineseTable
import AtomicCss.Charset.HongKongTable

/-! # Chinese charsets

GBK extends GB 2312 by the other ideographs of the first Unicode block, in their order, and GB
18030 extends GBK by all other characters of Unicode, in four bytes and also in their order.
Big5 is a table of its own, and there is a supplementary set to it. -/

namespace AtomicCss.Charset

/-- GB 2312. -/
def gb2312 : ByteSequences :=
  let table := gb2312Only ++ gb2312Table
  pairSequences table.char? table.number?

/-- The first ideograph, and the number of ideographs in their first block. -/
def ideographs : Nat × Nat := (0x4E00, 20902)

/-- The ideographs that are not in GB 2312. -/
def gbkIdeographs : Remainder :=
  .of ideographs.1
    ((Remainder.rangesOf gb2312Table).filter fun (n, _) =>
      ideographs.1 ≤ n && n < ideographs.1 + ideographs.2)

/-- How many ideographs are not in GB 2312. -/
def gbkIdeographCount : Nat := 14139

/-- The place in its row of a second byte: 7F is left out. -/
def gbkPlace? (byte : Nat) : Option Nat :=
  if 0x40 ≤ byte ∧ byte < 0x7F then some (byte - 0x40)
  else if 0x7F < byte ∧ byte < 0xFF then some (byte - 0x41)
  else none

/-- The place among the added ideographs of two bytes. They fill the first 32 rows, and after
these the first 96 places of the rows from AA on. -/
def gbkIdeographPlace? (pair : Nat) : Option Nat :=
  let row := pair / 256
  match gbkPlace? (pair % 256) with
  | none => none
  | some place =>
      if 0x81 ≤ row ∧ row < 0xA1 then some (190 * (row - 0x81) + place)
      else if 0xAA ≤ row ∧ place < 96 ∧ 6080 + 96 * (row - 0xAA) + place < gbkIdeographCount then
        some (6080 + 96 * (row - 0xAA) + place)
      else none

/-- The two bytes of a place among the added ideographs. -/
def gbkIdeographPair (n : Nat) : Nat :=
  let (row, place) :=
    if n < 6080 then (0x81 + n / 190, n % 190) else (0xAA + (n - 6080) / 96, (n - 6080) % 96)
  256 * row + place + (if place < 63 then 0x40 else 0x41)

/-- The character of two bytes in GBK. -/
def gbkChar? (pair : Nat) : Option Char :=
  gbkTable.char? pair <|> gb2312Table.char? pair <|>
    (gbkIdeographPlace? pair).map fun n => Char.ofNat (gbkIdeographs.nth n)

/-- The two bytes of a character in GBK. -/
def gbkNumber? (c : Char) : Option Nat :=
  gbkTable.number? c <|> gb2312Table.number? c <|>
    if ideographs.1 ≤ c.toNat ∧ c.toNat < ideographs.1 + ideographs.2 then
      some (gbkIdeographPair (gbkIdeographs.countBelow c.toNat))
    else none

/-- GBK. -/
def gbk : ByteSequences := pairSequences gbkChar? gbkNumber?

/-- The character of two bytes in GB 18030. -/
def gb18030Char? (pair : Nat) : Option Char :=
  gbkChar? pair <|> gb18030Table.char? pair <|>
    gb18030Private.findSome? fun (first, c, size) =>
      if first ≤ pair ∧ pair < first + size then some (Char.ofNat (c + (pair - first))) else none

/-- The two bytes of a character in GB 18030. -/
def gb18030Number? (c : Char) : Option Nat :=
  gbkNumber? c <|> gb18030Table.number? c <|>
    gb18030Private.findSome? fun (pair, first, size) =>
      if first ≤ c.toNat ∧ c.toNat < first + size then some (pair + (c.toNat - first)) else none

/-- The code points below 10000 that have no two bytes. Surrogates are no characters. -/
def gb18030Rest : Remainder :=
  .of 0x80
    (ideographs :: (0xD800, 0x800) ::
      (gb18030Private.map Prod.snd ++ Remainder.rangesOf gb18030Table ++
        (Remainder.rangesOf gbkTable ++ Remainder.rangesOf gb2312Table).filter fun (n, _) =>
          n < ideographs.1 || ideographs.1 + ideographs.2 ≤ n))

/-- How many code points have four bytes and are below 10000. -/
def gb18030RestCount : Nat := 39420

/-- The place from which on the code points from 10000 are numbered. -/
def gb18030High : Nat := 189000

/-- The character of four bytes, which are two digits with 126 and two digits with 10 values. -/
def gb18030Four? (a b c d : UInt8) : Option Char :=
  if 0x81 ≤ a ∧ a < 0xFF ∧ 0x30 ≤ b ∧ b < 0x3A ∧ 0x81 ≤ c ∧ c < 0xFF ∧ 0x30 ≤ d ∧ d < 0x3A then
    let n := ((10 * (a.toNat - 0x81) + (b.toNat - 0x30)) * 126 + (c.toNat - 0x81)) * 10 +
      (d.toNat - 0x30)
    if n < gb18030RestCount then some (Char.ofNat (gb18030Rest.nth n))
    else if gb18030High ≤ n ∧ n - gb18030High < 0x100000 then
      some (Char.ofNat (0x10000 + (n - gb18030High)))
    else none
  else none

/-- The four bytes of a character that has no two bytes. -/
def gb18030FourBytes (c : Char) : Bytes :=
  let n := if c.toNat < 0x10000 then gb18030Rest.countBelow c.toNat
    else gb18030High + (c.toNat - 0x10000)
  [0x81 + n / 12600, 0x30 + n / 1260 % 10, 0x81 + n / 10 % 126, 0x30 + n % 10].map Nat.toUInt8

/-- GB 18030. -/
def gb18030 : ByteSequences where
  first?
    | a :: b :: c :: d :: rest =>
        (gb18030Four? a b c d).map (fun e => (e, rest)) <|>
          (pairSequences gb18030Char? gb18030Number?).first? (a :: b :: c :: d :: rest)
    | bytes => (pairSequences gb18030Char? gb18030Number?).first? bytes
  bytes? c :=
    (pairSequences gb18030Char? gb18030Number?).bytes? c <|> some (gb18030FourBytes c)

/-- Big5. -/
def big5 : ByteSequences := pairSequences big5Table.char? big5Table.number?

/-- Code page 950: Big5 with more characters, and some in other places. -/
def cp950 : ByteSequences :=
  let table := page950 ++ big5Table ++ page950Additions
  pairSequences table.char? table.number?

/-- The rows of Big5 that the supplementary set of Hong Kong fills anew. -/
def isHongKongRow (pair : Nat) : Bool := 0xC6A1 ≤ pair && pair < 0xC900

/-- The character of two bytes in Big5 with the supplementary set of Hong Kong. -/
def hongKongChar? (pair : Nat) : Option Char :=
  if isHongKongRow pair then hongKongTable.char? pair
  else big5Table.char? pair <|> hongKongTable.char? pair

/-- Big5 with the supplementary set of Hong Kong, in which a letter may have two marks. -/
def big5HongKong : ByteSequences :=
  { pairSequences hongKongChar? fun c =>
      hongKongTable.number? c <|> (big5Table.number? c).filter (!isHongKongRow ·) with
    pairs :=
      [('Ê', '\u0304', [0x88, 0x62]), ('Ê', '\u030C', [0x88, 0x64]),
        ('ê', '\u0304', [0x88, 0xA3]), ('ê', '\u030C', [0x88, 0xA5])] }

end AtomicCss.Charset
