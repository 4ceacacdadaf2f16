import AtomicCss.OrderedMap
import AtomicCss.Settings
import AtomicCss.Text.Quoted
import AtomicCss.Value

/-! # Settings files

A settings file assigns values to names and may raise a failure afterwards. Three names are
settings; the last value assigned to each counts, and a value of any kind is accepted. -/

namespace AtomicCss

/-- The failure that a settings file raises at its end: its kind and its text. -/
structure Raise where
  kind : Text
  text : Text
  deriving DecidableEq, Repr

/-- A kind of failure that is more than a failure of the file: it ends the program. -/
inductive EndKind where
  | exit
  /-- The program ends with this exit code and no text. -/
  | exitCode (code : UInt8)
  | interrupt
  | generatorExit
  | unspecific
  deriving DecidableEq, Repr

/-- What comes of a raised failure. -/
inductive RaiseOutcome where
  /-- The file is not loaded, for this reason. -/
  | notLoaded (reason : Text)
  | ending (kind : EndKind) (text : Text)
  deriving DecidableEq, Repr

namespace Raise

/-- The kinds that end the program. -/
def endKinds : List (String × EndKind) :=
  [("SystemExit", .exit), ("KeyboardInterrupt", .interrupt), ("GeneratorExit", .generatorExit),
    ("BaseException", .unspecific)]

/-- The kinds that a text alone does not make a failure of, with what is wrong then. -/
def misusedKinds : List (String × String) :=
  [("UnicodeDecodeError", "function takes exactly 5 arguments (1 given)"),
    ("UnicodeEncodeError", "function takes exactly 5 arguments (1 given)"),
    ("UnicodeTranslateError", "function takes exactly 4 arguments (1 given)"),
    ("BaseExceptionGroup", "BaseExceptionGroup.__new__() takes exactly 2 arguments (1 given)"),
    ("ExceptionGroup", "BaseExceptionGroup.__new__() takes exactly 2 arguments (1 given)")]

/-- The kinds whose text is the reason. -/
def plainKinds : List String :=
  ["ArithmeticError", "AssertionError", "AttributeError", "BlockingIOError", "BrokenPipeError",
    "BufferError", "BytesWarning", "ChildProcessError", "ConnectionAbortedError",
    "ConnectionError", "ConnectionRefusedError", "ConnectionResetError", "DeprecationWarning",
    "EOFError", "EncodingWarning", "EnvironmentError", "Exception", "FileExistsError",
    "FileNotFoundError", "FloatingPointError", "FutureWarning", "IOError", "ImportError",
    "ImportWarning", "IndentationError", "IndexError", "InterruptedError", "IsADirectoryError",
    "LookupError", "MemoryError", "ModuleNotFoundError", "NameError", "NotADirectoryError",
    "NotImplementedError", "OSError", "OverflowError", "PendingDeprecationWarning",
    "PermissionError", "ProcessLookupError", "RecursionError", "ReferenceError",
    "ResourceWarning", "RuntimeError", "RuntimeWarning", "StopAsyncIteration", "StopIteration",
    "SyntaxError", "SyntaxWarning", "SystemError", "TabError", "TimeoutError", "TypeError",
    "UnboundLocalError", "UnicodeError", "UnicodeWarning", "UserWarning", "ValueError",
    "Warning", "ZeroDivisionError"]

/-- The kind whose text is a key that is missing; the reason is the key as it is written. -/
def missingKeyKind : Text := "KeyError".toList

/-- The reason when a name has no meaning. -/
def unknownName (name : Text) : Text := "name '".toList ++ name ++ "' is not defined".toList

/-- Why a file that raises a failure is not loaded. A kind that nobody knows is itself a
failure. -/
def reason (failure : Raise) : Text :=
  match misusedKinds.find? fun (kind, _) => kind.toList = failure.kind with
  | some (_, reason) => reason.toList
  | none =>
      if failure.kind = missingKeyKind then failure.text.quoted
      else if plainKinds.any (·.toList = failure.kind) then failure.text
      else unknownName failure.kind

/-- What comes of a failure. -/
def outcome (failure : Raise) : RaiseOutcome :=
  match endKinds.find? fun (kind, _) => kind.toList = failure.kind with
  | some (_, kind) => .ending kind failure.text
  | none => .notLoaded failure.reason

end Raise

/-- The content of a settings file. -/
structure SettingsFile where
  assignments : List (Text × Value)
  failure : Option Raise
  deriving Repr

/-- What keeps a file from being loaded, if anything does. A name in a value has no meaning. -/
def SettingsFile.outcome? (file : SettingsFile) : Option RaiseOutcome :=
  match file.assignments.findSome? fun (_, value) => value.name? with
  | some name => some (.notLoaded (Raise.unknownName name))
  | none => file.failure.map Raise.outcome

namespace Settings

/-- The name that the class stem is assigned to. -/
def stemName : Text := "CLASS_PREFIX".toList

/-- The name that the style id is assigned to. -/
def idName : Text := "STYLE_ID".toList

/-- The name that is assigned whether malformed declarations are refused. -/
def strictName : Text := "STRICT".toList

/-- The settings with a value of each kind in the place of the standard one. -/
def ofAssignments (assignments : List (Text × Value)) : Settings :=
  let values := OrderedMap.ofPairs assignments
  let text (name other : Text) : Text :=
    ((OrderedMap.get? name values).map Value.toText).getD other
  { classStem := text stemName standard.classStem
    styleId := text idName standard.styleId
    strict := ((OrderedMap.get? strictName values).map Value.isTrue).getD standard.strict }

end Settings
end AtomicCss
