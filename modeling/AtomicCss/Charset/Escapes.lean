import AtomicCss.Charset.Chinese
import AtomicCss.Charset.CodePageTable
import AtomicCss.Charset.JisX0213
import AtomicCss.Charset.Korean

/-! # Charsets with escapes

In these charsets every byte is below 80, and escapes between the characters tell which set the
bytes after them belong to. -/

namespace AtomicCss.Charset

/-- The two bytes of a number in a set of 94 rows without their highest bits. -/
def sevenBitPair (n : Nat) : Bytes := pairBytes (n - 0x8080)

/-- The number in a set of 94 rows of two bytes without their highest bits. -/
def sevenBitNumber (a b : UInt8) : Nat := pairNumber a b + 0x8080

namespace Iso2022

/-- A set of characters. -/
inductive CharSet where
  | ascii
  | roman
  | katakana
  /-- The upper half of Latin-1. -/
  | western
  /-- The upper half of the Greek code page. -/
  | greek
  | jisX0208
  /-- The edition of JIS X 0208 that came first, which is not told from the other one here. -/
  | oldJisX0208
  | jisX0212
  | firstPlane (edition : JisX0213.Edition)
  | secondPlane (edition : JisX0213.Edition)
  | gb2312
  | ksX1001
  deriving DecidableEq, Repr

namespace CharSet

/-- Whether a character of a set has two bytes. -/
def isDouble : CharSet → Bool
  | ascii | roman | katakana | western | greek => false
  | _ => true

/-- The character that ends the escapes of a set. -/
def mark : CharSet → Char
  | ascii => 'B'
  | roman => 'J'
  | katakana => 'I'
  | western => 'A'
  | greek => 'F'
  | jisX0208 => 'B'
  | oldJisX0208 => '@'
  | jisX0212 => 'D'
  | firstPlane .year2000 => 'O'
  | firstPlane .year2004 => 'Q'
  | secondPlane _ => 'P'
  | gb2312 => 'A'
  | ksX1001 => 'C'

/-- The number of the wide tilde in the first plane of JIS X 0213, which is read as that of
ASCII. -/
def tildeNumber : Nat := 0xA2B2

/-- The characters of a set with two bytes by their numbers, and the other way. The second plane is
read in its later edition. -/
def table? : CharSet → Option ((Nat → Option Char) × (Char → Option Nat))
  | jisX0208 | oldJisX0208 => some (Charset.jisX0208.char?, Charset.jisX0208.number?)
  | jisX0212 => some (Charset.jisX0212.char?, Charset.jisX0212.number?)
  | firstPlane edition =>
      some (fun n => if n = tildeNumber then some '~' else JisX0213.firstChar? edition n,
        fun c => (JisX0213.firstNumber? edition c).filter (· ≠ tildeNumber))
  | secondPlane edition =>
      some (JisX0213.Edition.year2004.secondTable.char?, edition.secondTable.number?)
  | gb2312 => some ((gb2312Only ++ gb2312Table).char?, (gb2312Only ++ gb2312Table).number?)
  | ksX1001 => some (Charset.ksX1001.char?, Charset.ksX1001.number?)
  | _ => none

/-- The two characters at the start of bytes that stand for both of them. -/
def firstPair? (set : CharSet) (bytes : Bytes) : Option (Text × Bytes) :=
  match set, bytes with
  | firstPlane _, a :: b :: rest =>
      (jisX0213Pairs.find? fun (_, _, n) => n = sevenBitNumber a b).map fun (c, d, _) =>
        ([c, d], rest)
  | _, _ => none

/-- The characters that start bytes from 20 to 7F, and the bytes after them. -/
def first? (set : CharSet) (bytes : Bytes) : Option (Text × Bytes) :=
  match set, bytes with
  | ascii, a :: rest => some ([asciiChar a], rest)
  | roman, a :: rest =>
      some ([if a = 0x5C then '¥' else if a = 0x7E then '‾' else asciiChar a], rest)
  | katakana, a :: rest => (katakana? (a + 0x80)).map fun c => ([c], rest)
  | set, bytes =>
      set.firstPair? bytes <|>
        match set.table?, bytes with
        | some (char?, _), a :: b :: rest =>
            (char? (sevenBitNumber a b)).map fun c => ([c], rest)
        | _, _ => none

/-- The bytes of a character. -/
def bytes? (set : CharSet) (c : Char) : Option Bytes :=
  match set with
  | ascii => if c.toNat < 0x80 then some [c.toNat.toUInt8] else none
  | roman => (romanByte? c).map fun byte => [byte]
  | katakana => (katakanaByte? c).map fun byte => [byte - 0x80]
  | set => set.table?.bind fun (_, number?) => (number? c).map sevenBitPair

/-- The bytes of two characters that stand together. A null character after one that may start a
pair is left out. -/
def pairBytes? (set : CharSet) (c d : Char) : Option Bytes :=
  match set with
  | firstPlane _ =>
      match jisX0213Pairs.find? fun (first, second, _) => first = c ∧ second = d with
      | some (_, _, n) => some (sevenBitPair n)
      | none => if d = '\x00' ∧ jisX0213Pairs.any (·.1 = c) then set.bytes? c else none
  | _ => none

end CharSet

/-- The byte that starts an escape. -/
def escapeByte : UInt8 := 0x1B

/-- The bytes of an ASCII text. -/
def asciiBytes (text : String) : Bytes := text.toList.map fun c => c.toNat.toUInt8

/-- Where a set is put into use: for all characters that follow, for those after a shift, or for
single characters. -/
inductive Slot where
  | plain
  | shifted
  | single
  deriving DecidableEq, Repr

/-- A charset with escapes. ASCII is one of its sets, and the others are in the order in which they
are tried. -/
structure Variant where
  sets : List CharSet
  /-- Whether the sets are used after a shift. -/
  hasShifts : Bool
  /-- Whether there is an escape for one character. -/
  hasSingles : Bool
  deriving DecidableEq, Repr

/-- Sets that are neither used after a shift nor for one character. -/
def Variant.plain (sets : List CharSet) : Variant := ⟨sets, false, false⟩

/-- The sets that are in use. -/
structure Usage where
  plain : CharSet
  shifted : CharSet
  single : CharSet
  isShifted : Bool

namespace Usage

/-- At the start, ASCII is in use everywhere. -/
def start : Usage := ⟨.ascii, .ascii, .ascii, false⟩

/-- Puts a set into use. -/
def put (usage : Usage) (slot : Slot) (set : CharSet) : Usage :=
  match slot with
  | .plain => { usage with plain := set }
  | .shifted => { usage with shifted := set }
  | .single => { usage with single := set }

/-- The set that bytes without an escape belong to. -/
def current (usage : Usage) : CharSet := if usage.isShifted then usage.shifted else usage.plain

end Usage

/-! ## Reading -/

/-- Whether a byte ends an escape. -/
def endsEscape (byte : UInt8) : Bool := byte = 0x40 || (0x41 ≤ byte && byte ≤ 0x5A)

/-- The bytes that announce the later edition of a set, before an escape of its own. -/
def announcement : Bytes := asciiBytes "&@"

/-- The number of bytes of an escape after its first byte. An announcement is part of it, and so is
the byte after that. -/
def escapeWidth? (hasShifts : Bool) : Nat → Bytes → Option Nat
  | _, [] => none
  | 0, _ => none
  | limit + 1, a :: rest =>
      if endsEscape a then some 1
      else if !hasShifts && announcement.isPrefixOf (a :: rest) then
        (escapeWidth? hasShifts limit (rest.drop 2)).map (3 + ·)
      else (escapeWidth? hasShifts limit rest).map (1 + ·)

/-- The most bytes that an escape has after its first byte. -/
def escapeLimit : Nat := 15

namespace Variant

/-- The set with this mark. -/
def set? (variant : Variant) (isDouble : Bool) (mark : UInt8) : Option CharSet :=
  (.ascii :: variant.sets).find? fun set =>
    set.isDouble = isDouble && mark = set.mark.toNat.toUInt8

/-- What the bytes of an escape after its first byte put into use. -/
def readEscape? (variant : Variant) (escape : Bytes) : Option (Slot × CharSet) :=
  match escape with
  | [a, b] =>
      if a = 0x24 then (variant.set? true b).map (.plain, ·)
      else if a = 0x28 then (variant.set? false b).map (.plain, ·)
      else if a = 0x29 then (variant.set? false b).map (.shifted, ·)
      else if a = 0x2E ∧ variant.hasSingles then (variant.set? false b).map (.single, ·)
      else none
  | [0x24, 0x28, b] => (variant.set? true b).map (.plain, ·)
  | [0x24, 0x29, b] => (variant.set? true b).map (.shifted, ·)
  | [_, _, 0x1B, 0x24, 0x42] =>
      if variant.hasShifts then none else (variant.set? true 0x42).map (.plain, ·)
  | _ => none

/-- The slot and the set of an escape, and the bytes after the escape. -/
def escape? (variant : Variant) (bytes : Bytes) : Option (Slot × CharSet × Bytes) :=
  match escapeWidth? variant.hasShifts escapeLimit bytes with
  | none => none
  | some width =>
      if escapeLimit < width then none
      else
        (variant.readEscape? (bytes.take width)).map fun (slot, set) =>
          (slot, set, bytes.drop width)

end Variant

/-- The characters that have been added to the Greek code page, and are not known here. -/
def addedGreek : Text := "€₯ͺ".toList

/-- The character that stands after an escape for one character. -/
def singleChar? (set : CharSet) (byte : UInt8) : Option Char :=
  match set with
  | .ascii => if byte < 0x80 then some (asciiChar byte) else none
  | .western => if byte < 0x80 then some (Char.ofNat (byte.toNat + 0x80)) else none
  | .greek =>
      (CodePage.character? CodePage.greek.characters (byte ^^^ 0x80)).filter fun c =>
        !addedGreek.contains c
  | _ => none

/-- Cuts off an escape that has nothing to do with sets: it goes up to its last byte. -/
def cutEscape (bytes : Bytes) : Bytes × Bytes :=
  let before := bytes.takeWhile fun byte => !endsEscape byte
  (bytes.take (before.length + 1), bytes.drop (before.length + 1))

/-- Whether a byte after the first one makes an escape one that names a set. -/
def namesSet (byte : UInt8) : Bool := (asciiBytes "()$.&").contains byte

/-- The byte after which the shifted set is in use. -/
def shiftOut : UInt8 := 0x0E

/-- The byte after which it is not in use any more. -/
def shiftIn : UInt8 := 0x0F

/-- The text that bytes stand for, if these sets are in use. A line end takes a shift back. -/
def decodeUpTo? (variant : Variant) : Nat → Usage → Bytes → Option Text
  | _, _, [] => some []
  | 0, _, _ => none
  | limit + 1, usage, a :: rest =>
      if a = escapeByte then
        match rest with
        | [] => none
        | b :: after =>
            if namesSet b then
              (variant.escape? rest).bind fun (slot, set, rest) =>
                decodeUpTo? variant limit (usage.put slot set) rest
            else if variant.hasSingles ∧ b = 0x4E then
              match after with
              | [] => none
              | c :: rest =>
                  (singleChar? usage.single c).bind fun c =>
                    (decodeUpTo? variant limit usage rest).map (c :: ·)
            else
              let (through, rest) := cutEscape rest
              (decodeUpTo? variant limit usage rest).map fun text =>
                (a :: through).map asciiChar ++ text
      else if variant.hasShifts ∧ (a = shiftOut ∨ a = shiftIn) then
        decodeUpTo? variant limit { usage with isShifted := decide (a = shiftOut) } rest
      else if a < 0x20 then
        let usage := if a = 0x0A then { usage with isShifted := false } else usage
        (decodeUpTo? variant limit usage rest).map (asciiChar a :: ·)
      else if 0x80 ≤ a then none
      else
        match usage.current.first? (a :: rest) with
        | none => none
        | some (characters, rest) => (decodeUpTo? variant limit usage rest).map (characters ++ ·)

/-- The text that bytes stand for. -/
def decode? (variant : Variant) (bytes : Bytes) : Option Text :=
  decodeUpTo? variant bytes.length .start bytes

/-! ## Writing -/

/-- The escape that puts a set into a slot. The usual edition of JIS X 0208 has a shorter one. -/
def escapeTo (slot : Slot) (set : CharSet) : Bytes :=
  let slotMark := match slot with
    | .plain => "("
    | .shifted => ")"
    | .single => "."
  let opening := if set.isDouble then if set = .jisX0208 then "$" else "$" ++ slotMark else slotMark
  escapeByte :: asciiBytes opening ++ [set.mark.toNat.toUInt8]

/-- The bytes that make a set the one in use, and what is in use then. -/
def change (variant : Variant) (usage : Usage) (set : CharSet) : Bytes × Usage :=
  if variant.hasShifts ∧ set ≠ .ascii then
    ((if usage.shifted = set then [] else escapeTo .shifted set) ++
        (if usage.isShifted then [] else [shiftOut]),
      { usage with shifted := set, isShifted := true })
  else
    ((if usage.plain = set then [] else escapeTo .plain set) ++
        (if usage.isShifted then [shiftIn] else []),
      { usage with plain := set, isShifted := false })

/-- The first set with a character, and the bytes there. -/
def setBytes? (variant : Variant) (c : Char) : Option (CharSet × Bytes) :=
  (.ascii :: variant.sets).findSome? fun set => (set.bytes? c).map fun bytes => (set, bytes)

/-- The set with two characters that stand together, and their bytes. -/
def setPairBytes? (variant : Variant) (c d : Char) : Option (CharSet × Bytes) :=
  variant.sets.findSome? fun set => (set.pairBytes? c d).map fun bytes => (set, bytes)

/-- The bytes of a text if these sets are in use. At the end, ASCII is. -/
def encodeFrom? (variant : Variant) : Usage → Text → Option Bytes
  | usage, [] => some (change variant usage .ascii).1
  | usage, [c] =>
      (setBytes? variant c).map fun (set, bytes) =>
        let (before, usage) := change variant usage set
        before ++ bytes ++ (change variant usage .ascii).1
  | usage, c :: d :: rest =>
      match setPairBytes? variant c d with
      | some (set, bytes) =>
          let (before, usage) := change variant usage set
          (encodeFrom? variant usage rest).map fun others => before ++ bytes ++ others
      | none =>
          match setBytes? variant c with
          | none => none
          | some (set, bytes) =>
              let (before, usage) := change variant usage set
              (encodeFrom? variant usage (d :: rest)).map fun others => before ++ bytes ++ others

/-- The bytes of a text. Of several sets with a character, the first is used. -/
def encode? (variant : Variant) (text : Text) : Option Bytes := encodeFrom? variant .start text

end Iso2022

namespace Hz

/-- The text that bytes stand for, if `double` inside a part with two bytes for each character.
A tilde starts an escape, and one before a line end takes the line end away. -/
def decodeFrom? : Bool → Bytes → Option Text
  | _, [] => some []
  | true, [_] => none
  | false, [a] => if a = 0x7E then none else if a < 0x80 then some [asciiChar a] else none
  | false, a :: b :: rest =>
      if a = 0x7E then
        if b = 0x7E then (decodeFrom? false rest).map ('~' :: ·)
        else if b = 0x7B then decodeFrom? true rest
        else if b = 0x0A then decodeFrom? false rest
        else none
      else if a < 0x80 then (decodeFrom? false (b :: rest)).map (asciiChar a :: ·)
      else none
  | true, a :: b :: rest =>
      if a = 0x7E then if b = 0x7D then decodeFrom? false rest else none
      else if 0x80 ≤ a ∨ 0x80 ≤ b then none
      else
        match (gb2312Only ++ gb2312Table).char? (sevenBitNumber a b) with
        | none => none
        | some c => (decodeFrom? true rest).map (c :: ·)

/-- The bytes of a text after a part with so many bytes for each character. -/
def encodeFrom? : Bool → Text → Option Bytes
  | double, [] => some (if double then [0x7E, 0x7D] else [])
  | double, c :: rest =>
      if c.toNat < 0x80 then
        (encodeFrom? false rest).map fun others =>
          (if double then [0x7E, 0x7D] else []) ++
            (if c = '~' then [0x7E, 0x7E] else [c.toNat.toUInt8]) ++ others
      else
        match (gb2312Only ++ gb2312Table).number? c with
        | none => none
        | some n =>
            (encodeFrom? true rest).map fun others =>
              (if double then [] else [0x7E, 0x7B]) ++ sevenBitPair n ++ others

end Hz

end AtomicCss.Charset
