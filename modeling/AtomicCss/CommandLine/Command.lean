import AtomicCss.CommandLine.Report
import AtomicCss.Pass.Loose
import AtomicCss.Text.Lines

/-! # Commands

`compile` shows what one inline style compiles to, and `build` restyles the page in an HTML file.
A command sees the working directory and says which files it has written. The output file is opened
only after the page has been rendered; what goes wrong from then on leaves it changed. -/

namespace AtomicCss.CommandLine

/-- The option that asks for help. -/
def helpOption : OptionNames := ⟨none, "--help".toList, false⟩

/-- The option that asks for the version of the program. -/
def versionOption : OptionNames := ⟨none, "--version".toList, false⟩

/-- The option that names a settings file. -/
def settingsOption : OptionNames := ⟨none, "--config".toList, true⟩

/-- The option that names the output file. -/
def outputOption : OptionNames := ⟨some 'o', "--output".toList, true⟩

/-- An option as error messages show it. -/
def OptionNames.shown (option : OptionNames) : Text :=
  match option.short with
  | some letter =>
      ['\'', '-', letter] ++ "' / '".toList ++ option.long ++ ['\'']
  | none => '\'' :: option.long ++ ['\'']

/-- A command with its arguments. -/
inductive Command where
  | compile (style : Text) (settings : Option Text)
  | build (input : Text) (output settings : Option Text)
  deriving DecidableEq, Repr

/-- How reading a command line ends when there is no command to run. -/
inductive EarlyEnd where
  | help (context : Context)
  | version
  | misuse (context : Context) (error : UsageError)
  | breakdown (cause : Breakdown)
  deriving DecidableEq, Repr

/-- What is wrong with a path that `parameter` is given. It must not lead to a folder, and a
path for `reading` has to lead to a file. -/
def pathError? (context : Context) (reading : Bool) (parameter : Text) (directory : Directory)
    (path : Text) : Option EarlyEnd :=
  if '\x00' ∈ path then some (.breakdown .nullInPath)
  else
    match directory.find? path with
    | some entry =>
        if entry.isFolder then some (.misuse context (.fileIsFolder parameter path)) else none
    | none => if reading then some (.misuse context (.fileMissing parameter path)) else none

/-- What is wrong with the first path among the values of options that cannot be used. -/
def optionError? (context : Context) (directory : Directory) (arguments : Arguments) :
    Option EarlyEnd :=
  arguments.lastValues.findSome? fun (option, path) =>
    pathError? context false option.shown directory path

/-- Sorts the words of a command that has one argument besides its options, which stand in the
order of their names. The options are looked at first, and `check` says what is wrong with the
argument. -/
def readWords (context : Context) (options : List OptionNames) (name : Text)
    (check : Text → Option EarlyEnd) (directory : Directory) (words : List Text) :
    Except EarlyEnd (Text × Arguments) :=
  match Arguments.read options true words with
  | .error error => .error (.misuse context (.arguments error))
  | .ok arguments =>
      if (arguments.value? helpOption).isSome then .error (.help context)
      else
        match optionError? context directory arguments with
        | some ending => .error ending
        | none =>
            match arguments.others with
            | [] => .error (.misuse context (.missingArgument name))
            | argument :: rest =>
                match check argument with
                | some ending => .error ending
                | none =>
                    if rest.isEmpty then .ok (argument, arguments)
                    else .error (.misuse context (.extraArguments rest))

/-- Reads the words after `compile`. -/
def readCompile (directory : Directory) (words : List Text) : Except EarlyEnd Command :=
  let options := [settingsOption, helpOption]
  (readWords .compile options "STYLE".toList (fun _ => none) directory words).map
    fun (style, arguments) => .compile style (arguments.value? settingsOption)

/-- Reads the words after `build`. -/
def readBuild (directory : Directory) (words : List Text) : Except EarlyEnd Command :=
  let options := [settingsOption, helpOption, outputOption]
  let check := pathError? .build true "'INPUT_FILE'".toList directory
  (readWords .build options "INPUT_FILE".toList check directory words).map
    fun (input, arguments) =>
      .build input (arguments.value? outputOption) (arguments.value? settingsOption)

/-- The names of the commands. -/
def commandNames : List Text := ["build".toList, "compile".toList]

/-- The words after the options of the program. -/
def readProgram (words : List Text) : Except EarlyEnd (List Text) :=
  match Arguments.read [helpOption, versionOption] false words with
  | .error error => .error (.misuse .program (.arguments error))
  | .ok arguments =>
      match arguments.options with
      | [] => .ok arguments.others
      | (option, _) :: _ =>
          .error (if option = versionOption then .version else .help .program)

/-- Reads a command line. A name that no command has is read again as an option of the
program. -/
def Command.read (directory : Directory) (words : List Text) : Except EarlyEnd Command :=
  match readProgram words with
  | .error ending => .error ending
  | .ok [] => .error (.misuse .program .missingCommand)
  | .ok (name :: rest) =>
      if name = "compile".toList then readCompile directory rest
      else if name = "build".toList then readBuild directory rest
      else
        match readProgram (name :: rest) with
        | .error ending => .error ending
        | .ok _ =>
            .error (.misuse .program (.unknownCommand name (similarNames name commandNames)))

/-- The lines that show a compiled style: its classes, the style that stays inline if any, and the
rules. A loose stem stands in the classes and in the rules. -/
def compiledLines (looseStem : Bool) (compiled : Compiled) : List LooseText :=
  let isLoose := looseStem && !compiled.classes.isEmpty
  let residual :=
    if compiled.residual.isEmpty then []
    else [⟨"style: ".toList ++ Style.printDeclarations compiled.residual, false⟩]
  ⟨"class: ".toList ++ Text.joinWith [' '] compiled.classes, isLoose⟩ ::
    (residual ++ [⟨(Sheet.empty.mergeAll compiled.rules).print, isLoose⟩])

/-- Shows what a style compiles to. -/
def runCompile (machine : Machine) (directory : Directory) (style : Text)
    (settingsPath : Option Text) : Report :=
  let loaded := directory.loadSettings machine settingsPath
  match loaded.outcome with
  | .error ending => .ended loaded.notices loaded.traces ending
  | .ok configuration =>
      let compiled := compileStyle configuration.settings style
      let notices := loaded.notices ++ compiled.notices
      match compiled.outcome with
      | .error error => .failure notices error.message loaded.traces
      | .ok compiled =>
          .printing machine notices (compiledLines configuration.looseStem compiled) loaded.traces

/-- The text of the input file. -/
def inputText? (directory : Directory) (path : Text) : Option Text :=
  (directory.find? path.normalizePath).bind fun entry =>
    (Charset.utf8.decode entry.content).map Text.normalizeLineEnds

/-- The line that says which file has been written. -/
def writtenLine (path : Text) : LooseText := ⟨"✅ Wrote ".toList ++ path, false⟩

/-- Writes a page to the file with a normalized path. Opening the file empties it, and only then is
the page encoded. `before` are the traces that are there already. -/
def writeOutput (machine : Machine) (directory : Directory) (notices : List Notice)
    (before : Traces) (path : Text) (page : LooseText) : Report :=
  match directory.placeToWrite path with
  | .error .missing => .broken notices .folderMissing before
  | .error .insideFile => .broken notices .folderIsFile before
  | .error .tooLong => .broken notices .pathTooLong before
  | .ok place =>
      let name := directory.nameOf place
      let content := Charset.encodeUtf8 page.text
      if (directory.entryAt? place).any Entry.isFolder then .broken notices .outputIsFolder before
      else if !machine.opens name then .broken notices .outputNotOpened before
      else if page.isLoose then .broken notices .notEncodable (before.write name [])
      else
        match machine.breaksOff? name content with
        | some size => .broken notices .outputCutShort (before.write name (content.take size))
        | none => .printing machine notices [writtenLine path] (before.write name content)

/-- Restyles the page in a file, and prints it or writes it. The files that the run of a settings
file leaves behind are there before the page is read. -/
def runBuild (machine : Machine) (directory : Directory) (input : Text)
    (output settingsPath : Option Text) : Report :=
  let loaded := directory.loadSettings machine settingsPath
  match loaded.outcome with
  | .error ending => .ended loaded.notices loaded.traces ending
  | .ok configuration =>
      let directory := directory.withFiles loaded.traces.written
      match inputText? directory input with
      | none => .broken loaded.notices .inputNotText loaded.traces
      | some page =>
          let rendered := Pass.renderLoaded configuration page
          let notices := loaded.notices ++ rendered.notices
          match rendered.outcome with
          | .error (.fault (.style error)) =>
              .failure notices (input.normalizePath ++ [':', ' '] ++ error.message) loaded.traces
          | .error (.fault fault) => .broken notices (.page fault) loaded.traces
          | .error .notEncodable => .broken notices .notEncodable loaded.traces
          | .ok page =>
              match output with
              | none => .printing machine notices [page] loaded.traces
              | some path =>
                  writeOutput machine directory notices loaded.traces path.normalizePath page

/-- Runs a command. -/
def Command.run (machine : Machine) (directory : Directory) : Command → Report
  | compile style settings => runCompile machine directory style settings
  | build input output settings => runBuild machine directory input output settings

/-- The report of an early end. -/
def EarlyEnd.report (machine : Machine) : EarlyEnd → Report
  | help context => .help machine context
  | version => .version machine
  | misuse context error => .misuse context error
  | breakdown cause => .broken [] cause .none

/-- Reads and runs a command line. -/
def run (machine : Machine) (directory : Directory) (words : List Text) : Report :=
  match Command.read directory words with
  | .error ending => ending.report machine
  | .ok command => command.run machine directory

end AtomicCss.CommandLine
