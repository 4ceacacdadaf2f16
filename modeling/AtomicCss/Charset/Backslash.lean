import AtomicCss.Charset.CharTable
import AtomicCss.Charset.CodeUnits
import AtomicCss.Text.Quoted

/-! # Charsets with a backslash

In these charsets a byte is the character of Latin-1, and a sequence after a backslash names
another character by its code point. -/

namespace AtomicCss.Charset.Backslash

/-- The byte of the backslash. -/
def backslash : UInt8 := 0x5C

/-- The value of a digit in a base. -/
def digit? (base : Nat) (byte : UInt8) : Option Nat :=
  ("0123456789abcdef".toList.idxOf? (asciiChar byte).toLower).filter (· < base)

/-- The number in all these digits. -/
def number? (base : Nat) (digits : Bytes) : Option Nat :=
  (digits.mapM (digit? base)).map fun values => values.foldl (fun n value => base * n + value) 0

/-- The character whose code point is written in so many hexadecimal digits. -/
def named? (count : Nat) (bytes : Bytes) : Option (Char × Bytes) :=
  if bytes.length < count then none
  else
    match (number? 16 (bytes.take count)).bind scalar? with
    | none => none
    | some c => some (c, bytes.drop count)

/-- The characters that a letter after a backslash stands for. -/
def letters : List (Char × Char) :=
  [('\\', '\\'), ('\'', '\''), ('"', '"'), ('a', '\x07'), ('b', '\x08'), ('t', '\t'), ('n', '\n'),
    ('v', '\x0b'), ('f', '\x0c'), ('r', '\r')]

/-- Reads what stands after a backslash: the text it stands for, and the bytes after it. A
backslash before another character stands for itself, and names of characters are not known. -/
def sequence? : Bytes → Option (Text × Bytes)
  | [] => none
  | a :: rest =>
      let c := asciiChar a
      match letters.find? (·.1 = c) with
      | some (_, d) => some ([d], rest)
      | none =>
          if c = '\n' then some ([], rest)
          else if c = 'N' then none
          else if c = 'x' then (named? 2 rest).map fun (d, rest) => ([d], rest)
          else if c = 'u' then (named? 4 rest).map fun (d, rest) => ([d], rest)
          else if c = 'U' then (named? 8 rest).map fun (d, rest) => ([d], rest)
          else
            let digits := ((a :: rest).take 3).takeWhile fun byte => (digit? 8 byte).isSome
            match digits, number? 8 digits with
            | _ :: _, some n => some ([Char.ofNat n], (a :: rest).drop digits.length)
            | _, _ => some (['\\', c], rest)

/-- Reads what stands after a backslash where only code points can be named. -/
def plainSequence? : Bytes → Option (Text × Bytes)
  | [] => some (['\\'], [])
  | a :: rest =>
      if asciiChar a = 'u' then (named? 4 rest).map fun (c, rest) => ([c], rest)
      else if asciiChar a = 'U' then (named? 8 rest).map fun (c, rest) => ([c], rest)
      else some (['\\', asciiChar a], rest)

/-- The text that at most `limit` bytes stand for. -/
def decodeUpTo? (sequence? : Bytes → Option (Text × Bytes)) : Nat → Bytes → Option Text
  | _, [] => some []
  | 0, _ => none
  | limit + 1, a :: rest =>
      if a ≠ backslash then (decodeUpTo? sequence? limit rest).map (asciiChar a :: ·)
      else
        match sequence? rest with
        | none => none
        | some (text, rest) => (decodeUpTo? sequence? limit rest).map (text ++ ·)

/-- The text that bytes stand for, with all sequences or only with those of code points. -/
def decode? (all : Bool) (bytes : Bytes) : Option Text :=
  decodeUpTo? (if all then sequence? else plainSequence?) bytes.length bytes

/-- One character as it is written. -/
def encodeChar (all : Bool) (c : Char) : Text :=
  if !all then if c.toNat < 0x100 then [c] else Text.codePointEscape c
  else if c = '\\' then ['\\', '\\']
  else if c = '\t' then ['\\', 't']
  else if c = '\n' then ['\\', 'n']
  else if c = '\r' then ['\\', 'r']
  else if 0x20 ≤ c.toNat ∧ c.toNat < 0x7F then [c]
  else Text.codePointEscape c

/-- The bytes of a text. -/
def encode (all : Bool) (text : Text) : Bytes :=
  (text.flatMap (encodeChar all)).map fun c => c.toNat.toUInt8

end AtomicCss.Charset.Backslash
