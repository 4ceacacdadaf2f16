import AtomicCss.Charset.ByteOrder
import AtomicCss.Settings.File

/-! # Running settings files

A settings file is a program. Running it gives values to names, may end in a failure, and may print
texts and leave files behind. What comes of a run depends on the machine; here stands only what is
made of it. -/

namespace AtomicCss

/-- What running leaves behind: the texts on the standard output and on the error output, and the
files that have been written, by name and in order, with what stands in them. -/
structure Traces where
  out : Text
  err : Text
  written : List (Text × Bytes)
  deriving DecidableEq, Repr

namespace Traces

/-- No traces. -/
def none : Traces := ⟨[], [], []⟩

/-- A text is printed on the standard output. -/
def print (text : Text) (traces : Traces) : Traces := { traces with out := traces.out ++ text }

/-- A text is printed on the error output. -/
def complain (text : Text) (traces : Traces) : Traces := { traces with err := traces.err ++ text }

/-- A file is written. -/
def write (name : Text) (content : Bytes) (traces : Traces) : Traces :=
  { traces with written := traces.written ++ [(name, content)] }

end Traces

/-- A text of a settings file, in which lone surrogates may stand. No charset has them, and no tree
takes them; the null character, which no tree takes either, stands for each of them. -/
structure LooseText where
  text : Text
  /-- Whether there is a lone surrogate. -/
  isLoose : Bool
  deriving DecidableEq, Repr

/-- What comes of running a settings file. -/
structure SettingsRun where
  assignments : List (Text × Value)
  /-- The names that end up with a text in which there are lone surrogates. -/
  looseNames : List Text
  /-- How the run ends if the file is not loaded. -/
  ending : Option RaiseOutcome
  /-- What the run leaves behind. Among the files is the compiled program if the machine keeps
  it. -/
  traces : Traces

/-- The run of a file that leaves nothing behind. -/
def SettingsFile.run (file : SettingsFile) : SettingsRun :=
  ⟨file.assignments, [], file.outcome?, .none⟩

/-- Settings as they are loaded: the stem and the id may have lone surrogates. -/
structure Configuration where
  settings : Settings
  looseStem : Bool
  looseId : Bool
  deriving DecidableEq, Repr

/-- The standard settings. -/
def Configuration.standard : Configuration := ⟨.standard, false, false⟩

/-- The settings that a run assigns. -/
def Configuration.ofRun (run : SettingsRun) : Configuration :=
  ⟨.ofAssignments run.assignments, run.looseNames.contains Settings.stemName,
    run.looseNames.contains Settings.idName⟩

end AtomicCss
