import AtomicCss.Settings.Run

/-! # Literals of settings files

A text stands between two equal quotes. After a backslash stand the letters of control characters,
a code point in octal or hexadecimal, or a character that is meant as it is. A code point may be a
lone surrogate. -/

namespace AtomicCss.Literal

/-- The value of a digit in a base. -/
def digit? (base : Nat) (c : Char) : Option Nat :=
  ("0123456789abcdef".toList.idxOf? c.toLower).filter (· < base)

/-- The number in all these digits, of which there is at least one. -/
def number? (base : Nat) (digits : Text) : Option Nat :=
  if digits = [] then none
  else
    (digits.mapM (digit? base)).map fun values => values.foldl (fun n value => base * n + value) 0

/-- The text of a code point. -/
def ofCodePoint? (n : Nat) : Option LooseText :=
  if 0xD800 ≤ n ∧ n < 0xE000 then some ⟨['\x00'], true⟩
  else if n < 0x110000 then some ⟨[Char.ofNat n], false⟩
  else none

/-- The code point in so many hexadecimal digits, and what stands after them. -/
def readHex? (width : Nat) (text : Text) : Option (LooseText × Text) :=
  if text.length < width then none
  else
    ((number? 16 (text.take width)).bind ofCodePoint?).map fun part => (part, text.drop width)

/-- The characters that a letter after a backslash stands for. -/
def letters : List (Char × Char) :=
  [('\\', '\\'), ('\'', '\''), ('"', '"'), ('a', '\x07'), ('b', '\x08'), ('f', '\x0c'),
    ('n', '\n'), ('r', '\r'), ('t', '\t'), ('v', '\x0b')]

/-- What a sequence after a backslash stands for, and what stands after it. A backslash before any
other character is kept; names of characters are not known. -/
def readSequence? : Text → Option (LooseText × Text)
  | [] => none
  | c :: rest =>
      match letters.find? (·.1 = c) with
      | some (_, d) => some (⟨[d], false⟩, rest)
      | none =>
          if c = 'x' then readHex? 2 rest
          else if c = 'u' then readHex? 4 rest
          else if c = 'U' then readHex? 8 rest
          else if c = 'N' then none
          else
            let digits := ((c :: rest).take 3).takeWhile fun d => (digit? 8 d).isSome
            match number? 8 digits with
            | some n =>
                (ofCodePoint? n).map fun part => (part, (c :: rest).drop digits.length)
            | none => some (⟨['\\', c], false⟩, rest)

/-- Puts a part in front. -/
def addFront (part : LooseText) : LooseText × Text → LooseText × Text
  | (text, rest) => (⟨part.text ++ text.text, part.isLoose || text.isLoose⟩, rest)

/-- The text up to the closing quote, in at most `limit` steps, and what stands after it. -/
def readQuotedFor? (quote : Char) : Nat → Text → Option (LooseText × Text)
  | 0, _ => none
  | _, [] => none
  | limit + 1, c :: rest =>
      if c = quote then some (⟨[], false⟩, rest)
      else if c = '\\' then
        (readSequence? rest).bind fun (part, rest) =>
          (readQuotedFor? quote limit rest).map (addFront part)
      else (readQuotedFor? quote limit rest).map (addFront ⟨[c], false⟩)

/-- The quoted text at the start of a text, and what stands after it. -/
def readQuoted? : Text → Option (LooseText × Text)
  | [] => none
  | quote :: rest =>
      if quote = '"' ∨ quote = '\'' then readQuotedFor? quote rest.length rest else none

/-- The integer at the start of a text, and what stands after it. -/
def readInteger? (text : Text) : Option (Int × Text) :=
  let (negative, rest) := match text with
    | '-' :: rest => (true, rest)
    | rest => (false, rest)
  let digits := rest.takeWhile Char.isDigit
  if digits.head? = some '0' ∧ digits.any (· ≠ '0') then none
  else
    (number? 10 digits).map fun n =>
      (if negative then -(n : Int) else n, rest.drop digits.length)

/-- The word at the start of a text that is a value, and what stands after it. -/
def readWord? (text : Text) : Option (Value × Text) :=
  let word := text.takeWhile fun c => c.isAlphanum || c == '_'
  let rest := text.drop word.length
  if word = "True".toList then some (.bool true, rest)
  else if word = "False".toList then some (.bool false, rest)
  else if word = "None".toList then some (.null, rest)
  else none

end AtomicCss.Literal
