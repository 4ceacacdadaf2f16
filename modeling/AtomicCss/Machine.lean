import AtomicCss.Settings.Reader
import AtomicCss.Text.Path

/-! # Machines

What the program cannot decide: which settings files are loaded and what comes of running them, which
files can be opened for writing and where writing breaks off, and which lines the standard output
takes. -/

namespace AtomicCss

/-- A machine that the program runs on. -/
structure Machine where
  /-- Whether a path is that of a program, by its ending. -/
  loads : Text → Bool
  /-- What comes of running the settings file under a path, with this content. -/
  runSettings : Text → Bytes → SettingsRun
  /-- Whether the file with a name can be opened for writing. -/
  opens : Text → Bool
  /-- The number of bytes after which writing this content to the file with a name breaks off, if
  it does. -/
  breaksOff? : Text → Bytes → Option Nat
  /-- Whether the standard output takes a line. -/
  takes : LooseText → Bool

/-- The ending of the names of settings files. -/
def settingsEnding : Text := ".py".toList

/-- A machine on which settings files are plain, every file can be opened and takes all that is
written, and the standard output takes every line without lone surrogates. -/
def Machine.plain : Machine where
  loads path := Text.endsWith settingsEnding path
  runSettings _ content := PlainFile.run content
  opens _ := true
  breaksOff? _ _ := none
  takes line := !line.isLoose

end AtomicCss
