import AtomicCss.CommandLine.Arguments
import AtomicCss.Directory
import AtomicCss.Fault
import AtomicCss.Text.Quoted

/-! # Reports of the command line

What a command prints, which files it writes and how it ends. Wrong usage ends with exit code 2, a
style that is refused with 1, and so does a failure for which there is no message. Files that have
been written stay, however the command ends. -/

namespace AtomicCss.CommandLine

/-- Whether a character is between two others. -/
def isBetween (first last c : Char) : Bool := first ≤ c && c ≤ last

/-- The number of characters of a terminal control sequence at the start of a text: after its
mark there are parameters, then intermediate characters, then one that ends it. -/
def controlSequenceWidth : Text → Nat
  | '\x1b' :: '[' :: rest =>
      let parameters := rest.takeWhile (isBetween '0' '?')
      let rest := rest.drop parameters.length
      let intermediates := rest.takeWhile (isBetween ' ' '/')
      if (rest.drop intermediates.length).head?.any (isBetween '@' '~') then
        parameters.length + intermediates.length + 3
      else 0
  | _ => 0

/-- The text after its first `skipped` characters, without terminal control sequences. -/
def dropControlSequencesAfter : Nat → Text → Text
  | _, [] => []
  | skipped + 1, _ :: rest => dropControlSequencesAfter skipped rest
  | 0, c :: rest =>
      match controlSequenceWidth (c :: rest) with
      | 0 => c :: dropControlSequencesAfter 0 rest
      | width + 1 => dropControlSequencesAfter width rest

/-- A text as it is printed on a line of its own: without terminal control sequences. -/
def printedLine (text : Text) : Text := dropControlSequencesAfter 0 text ++ ['\n']

/-- Where arguments are read: by the program or by one of its commands. -/
inductive Context where
  | program
  | compile
  | build
  deriving DecidableEq, Repr

/-- The command with the words before it. -/
def Context.path : Context → Text
  | program => "headwind".toList
  | compile => "headwind compile".toList
  | build => "headwind build".toList

/-- The arguments as a usage line shows them. -/
def Context.pattern : Context → Text
  | program => "[OPTIONS] COMMAND [ARGS]...".toList
  | compile => "[OPTIONS] STYLE".toList
  | build => "[OPTIONS] INPUT_FILE".toList

/-- Wrong usage of the command line. -/
inductive UsageError where
  | arguments (error : ArgumentError)
  | missingCommand
  /-- A name that no command has, and the names similar to it. -/
  | unknownCommand (name : Text) (similar : List Text)
  | missingArgument (name : Text)
  | extraArguments (words : List Text)
  /-- The file that an option or argument names has to exist. -/
  | fileMissing (parameter path : Text)
  /-- The file that an option or argument names must not be a folder. -/
  | fileIsFolder (parameter path : Text)
  deriving DecidableEq, Repr

/-- What is added to the wording of an unknown name. -/
def suggestion : List Text → Text
  | [] => []
  | [name] => " Did you mean ".toList ++ name.quoted ++ ['?']
  | names =>
      " (Did you mean one of: ".toList ++ Text.joinWith [',', ' '] (names.map Text.quoted) ++
        ['?', ')']

/-- The wording of an error in the arguments. -/
def ArgumentError.message : ArgumentError → Text
  | noSuchOption name similar =>
      "No such option ".toList ++ name.quoted ++ ['.'] ++ suggestion similar
  | valueMissing name => "Option ".toList ++ name.quoted ++ " requires an argument.".toList
  | valueRefused name => "Option ".toList ++ name.quoted ++ " does not take a value.".toList

/-- The wording of a usage error. -/
def UsageError.message : UsageError → Text
  | arguments error => error.message
  | missingCommand => "Missing command.".toList
  | unknownCommand name similar =>
      "No such command ".toList ++ name.quoted ++ ['.'] ++ suggestion similar
  | missingArgument name => "Missing argument '".toList ++ name ++ "'.".toList
  | extraArguments words =>
      (match words with
        | [_] => "Got unexpected extra argument (".toList
        | _ => "Got unexpected extra arguments (".toList) ++
        Text.joinWith [' '] words ++ [')']
  | fileMissing parameter path =>
      "Invalid value for ".toList ++ parameter ++ ": File ".toList ++ path.quoted ++
        " does not exist.".toList
  | fileIsFolder parameter path =>
      "Invalid value for ".toList ++ parameter ++ ": File ".toList ++ path.quoted ++
        " is a directory.".toList

/-- Whether the usage line is printed with an error. A value that is missing or too much says
enough. -/
def UsageError.showsUsage : UsageError → Bool
  | arguments (.valueMissing _) => false
  | arguments (.valueRefused _) => false
  | _ => true

/-- A failure for which a command has no message. -/
inductive Breakdown where
  | page (fault : Fault)
  /-- A settings file has raised a failure of this kind. -/
  | raised (kind : EndKind)
  /-- A settings file has ended the program with a text. -/
  | exited (text : Text)
  /-- A path with the null character in it. -/
  | nullInPath
  | pathTooLong
  /-- The input is not UTF-8 text. -/
  | inputNotText
  /-- The folder of the output file does not exist. -/
  | folderMissing
  /-- The output file would lie inside a file. -/
  | folderIsFile
  /-- The output file is a folder. -/
  | outputIsFolder
  /-- The output file cannot be opened. -/
  | outputNotOpened
  /-- A text with lone surrogates, which no charset has. -/
  | notEncodable
  /-- Writing the output file has broken off. -/
  | outputCutShort
  /-- The standard output does not take a line. -/
  | lineNotTaken
  deriving DecidableEq, Repr

/-- The wording of a failure without a message of its own. -/
def Breakdown.message : Breakdown → Text
  | page fault => fault.message
  | raised _ => "the settings file has raised a failure".toList
  | exited text => text
  | nullInPath => "a path has the null character in it".toList
  | pathTooLong => "a path is too long".toList
  | inputNotText => "the input file is not UTF-8 text".toList
  | folderMissing => "the folder of the output file does not exist".toList
  | folderIsFile => "the folder of the output file is a file".toList
  | outputIsFolder => "the output file is a folder".toList
  | outputNotOpened => "the output file cannot be opened".toList
  | notEncodable => "a text has lone surrogates in it".toList
  | outputCutShort => "writing the output file has broken off".toList
  | lineNotTaken => "the standard output does not take a line".toList

/-- What a command leaves behind, and how it ends. -/
structure Report extends Traces where
  exitCode : Nat
  breakdown : Option Breakdown
  notices : List Notice
  deriving DecidableEq, Repr

/-- What is printed of lines, up to the first that the standard output does not take, and whether
it takes them all. -/
def printLines (machine : Machine) : List LooseText → Text × Bool
  | [] => ([], true)
  | line :: rest =>
      if machine.takes line then
        let (out, all) := printLines machine rest
        (printedLine line.text ++ out, all)
      else ([], false)

namespace Report

/-- A command that has done its work when its lines are printed. -/
def printing (machine : Machine) (notices : List Notice) (lines : List LooseText)
    (before : Traces) : Report :=
  match printLines machine lines with
  | (out, true) => ⟨before.print out, 0, none, notices⟩
  | (out, false) => ⟨before.print out, 1, some .lineNotTaken, notices⟩

/-- A command that ends with a message. -/
def failure (notices : List Notice) (message : Text) (before : Traces) : Report :=
  ⟨before.complain (printedLine ("Error: ".toList ++ message)), 1, none, notices⟩

/-- A command that breaks down. -/
def broken (notices : List Notice) (breakdown : Breakdown) (before : Traces) : Report :=
  ⟨before, 1, some breakdown, notices⟩

/-- Loading settings has ended the program. -/
def ended (notices : List Notice) (before : Traces) : LoadEnd → Report
  | .raised .exit text => broken notices (.exited text) before
  | .raised (.exitCode code) _ => ⟨before, code.toNat, none, notices⟩
  | .raised .interrupt _ =>
      ⟨before.complain ('\n' :: printedLine "Aborted!".toList), 1, none, notices⟩
  | .raised kind _ => broken notices (.raised kind) before
  | .pathTooLong => broken notices .pathTooLong before

/-- The usage line of a context. -/
def usageLine (context : Context) : Text :=
  "Usage: ".toList ++ context.path ++ [' '] ++ context.pattern ++ ['\n']

/-- Wrong usage. -/
def misuse (context : Context) (error : UsageError) : Report :=
  let message := printedLine ("Error: ".toList ++ error.message)
  let hint := "Try '".toList ++ context.path ++ " --help' for help.\n\n".toList
  let shown := if error.showsUsage then usageLine context ++ hint ++ message else message
  ⟨Traces.none.complain shown, 2, none, []⟩

/-- What a context is for, as its help says it. -/
def purposeLines : Context → List String
  | .program =>
      ["  Headwind CLI.", "",
        "  Run 'headwind compile STYLE' to see what an inline style compiles to. Run",
        "  'headwind build FILE' to rewrite the inline styles of an HTML file."]
  | .compile => ["  Compile a single inline STYLE string."]
  | .build => ["  Rewrite the inline styles of an HTML file into atomic classes."]

/-- The options and commands of a context, a line for each. -/
def helpLines : Context → List String
  | .program =>
      ["Options:", "  --version  Show the version and exit.",
        "  --help     Show this message and exit.", "", "Commands:",
        "  build    Rewrite the inline styles of an HTML file into atomic classes.",
        "  compile  Compile a single inline STYLE string."]
  | .compile =>
      ["Options:", "  --config FILE  Config file (default: ./headwind.config.py)",
        "  --help         Show this message and exit."]
  | .build =>
      ["Options:", "  -o, --output FILE  Output file (default: stdout)",
        "  --config FILE      Config file (default: ./headwind.config.py)",
        "  --help             Show this message and exit."]

/-- Help on a context, which is printed as one text. -/
def help (machine : Machine) (context : Context) : Report :=
  let lines := (purposeLines context ++ [""] ++ helpLines context).map String.toList
  printing machine []
    [⟨usageLine context ++ ['\n'] ++ Text.joinWith ['\n'] lines, false⟩] .none

/-- The version of the program. -/
def version (machine : Machine) : Report :=
  printing machine [] [⟨"headwind, version 0.1.0".toList, false⟩] .none

end Report
end AtomicCss.CommandLine
