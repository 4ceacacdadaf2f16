import AtomicCss.Charset.Basic
import AtomicCss.Settings.Literal
import AtomicCss.Text.Blank
import AtomicCss.Text.Lines

/-! # Plain settings files

A plain settings file needs no interpreter: each line is blank, a comment after a number sign, or an
assignment `NAME = value` of a literal, perhaps with a comment after it. The last line may raise a
failure with a text, `raise Kind("text")`. -/

namespace AtomicCss

/-- An assignment, and whether its text has lone surrogates. -/
structure PlainAssignment where
  name : Text
  value : Value
  isLoose : Bool

namespace PlainFile

/-- Whether nothing but blanks and a comment is left. -/
def isDone (text : Text) : Bool :=
  match text.dropWhile fun c => c == ' ' || c == '\t' with
  | [] => true
  | c :: _ => c == '#'

/-- Whether a text may be a name. -/
def isName (text : Text) : Bool :=
  (text.head?.any fun c => c.isAlpha || c == '_') && text.all fun c => c.isAlphanum || c == '_'

/-- The value at the start of a text, whether it has lone surrogates, and what stands after it. -/
def readValue? (text : Text) : Option (Value × Bool × Text) :=
  ((Literal.readQuoted? text).map fun (value, rest) => (.text value.text, value.isLoose, rest)) <|>
    ((Literal.readInteger? text).map fun (value, rest) => (.integer value, false, rest)) <|>
    ((Literal.readWord? text).map fun (value, rest) => (value, false, rest))

/-- The assignment on a line. -/
def readAssignment? (line : Text) : Option PlainAssignment :=
  match Text.cut '=' line with
  | (name, some value) =>
      match readValue? value.trimStart with
      | some (value, isLoose, rest) =>
          if isName name.trimEnd && isDone rest then some ⟨name.trimEnd, value, isLoose⟩ else none
      | none => none
  | (_, none) => none

/-- What starts a line that raises a failure. -/
def raiseStart : Text := "raise ".toList

/-- The failure that a line raises. -/
def readRaise? (line : Text) : Option Raise :=
  if raiseStart.isPrefixOf line then
    match Text.cut '(' (line.drop raiseStart.length) with
    | (kind, some rest) =>
        match Literal.readQuoted? rest with
        | some (⟨text, false⟩, ')' :: rest) =>
            if isName kind && isDone rest then some ⟨kind, text⟩ else none
        | _ => none
    | (_, none) => none
  else none

/-- The assignments on lines, the first of which has this number, and the failure that ends them.
A line that is neither is the reason for which they cannot be read. -/
def readLines : Nat → List Text → Except Text (List PlainAssignment × Option Raise)
  | _, [] => .ok ([], none)
  | number, line :: rest =>
      if isDone line then readLines (number + 1) rest
      else
        match readAssignment? line, readRaise? line with
        | some assignment, _ =>
            (readLines (number + 1) rest).map fun (assignments, failure) =>
              (assignment :: assignments, failure)
        | none, some failure => .ok ([], some failure)
        | none, none =>
            .error ("line ".toList ++ Text.ofNat number ++ " is not an assignment".toList)

/-- The names whose last value has lone surrogates. -/
def looseNames (assignments : List PlainAssignment) : List Text :=
  (OrderedMap.ofPairs (assignments.map fun assignment =>
    (assignment.name, assignment.isLoose))).filterMap fun (name, isLoose) =>
      if isLoose then some name else none

/-- The run of a plain settings file. A file that is not plain is not loaded. -/
def run (content : Bytes) : SettingsRun :=
  let notLoaded (reason : Text) : SettingsRun := ⟨[], [], some (.notLoaded reason), .none⟩
  match Charset.markedUtf8.decode content with
  | none => notLoaded "the file is not UTF-8 text".toList
  | some text =>
      match readLines 1 (Text.splitOn '\n' text.normalizeLineEnds) with
      | .error reason => notLoaded reason
      | .ok (assignments, failure) =>
          { SettingsFile.run ⟨assignments.map fun assignment =>
              (assignment.name, assignment.value), failure⟩ with
            looseNames := looseNames assignments }

end PlainFile
end AtomicCss
