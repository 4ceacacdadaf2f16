import AtomicCss.Text.Similar

/-! # Command-line arguments

Options may stand anywhere among the arguments of a command, up to `--`; those of the program end
at its first other argument. A long option takes its value after an equals sign or from the next
argument, a short one from the rest of its argument or from the next one. -/

namespace AtomicCss.CommandLine

/-- An option under its names. -/
structure OptionNames where
  short : Option Char
  long : Text
  takesValue : Bool
  deriving DecidableEq, Repr

/-- What is wrong with the arguments of a command. -/
inductive ArgumentError where
  /-- A name that no option has, and the names similar to it. -/
  | noSuchOption (name : Text) (similar : List Text)
  | valueMissing (name : Text)
  | valueRefused (name : Text)
  deriving DecidableEq, Repr

/-- Arguments sorted into the options with their values, in order, and the others. An option
that takes no value has the empty one. -/
structure Arguments where
  options : List (OptionNames × Text)
  others : List Text

/-- Whether an argument is an option. -/
def isOption (argument : Text) : Bool := argument.head? == some '-' && 1 < argument.length

/-- The end of the options. -/
def optionsEnd : Text := ['-', '-']

/-- What an argument that is an option says. -/
inductive OptionUse where
  /-- The option with its value. -/
  | given (option : OptionNames) (value : Text)
  /-- The option, by the name used; its value is the next argument. -/
  | valueNext (option : OptionNames) (name : Text)
  | wrong (error : ArgumentError)

/-- An option that is used by this name, perhaps with a value. -/
def OptionNames.use (name : Text) (value : Option Text) (option : OptionNames) : OptionUse :=
  match value, option.takesValue with
  | some value, true => .given option value
  | some _, false => .wrong (.valueRefused name)
  | none, true => .valueNext option name
  | none, false => .given option []

/-- The names among some that are similar to a name. -/
def similarNames (name : Text) (names : List Text) : List Text :=
  names.filter fun known => Text.isSimilar known name

/-- Reads an argument that is an option. -/
def readOption (known : List OptionNames) (argument : Text) : OptionUse :=
  let (name, value) := Text.cut '=' argument
  match known.find? fun option => option.long = name with
  | some option => option.use name value
  | none =>
      match argument with
      | '-' :: '-' :: _ =>
          .wrong (.noSuchOption name (similarNames name (known.map OptionNames.long)))
      | mark :: letter :: rest =>
          match known.find? fun option => option.short = some letter with
          | some option => option.use [mark, letter] (if rest.isEmpty then none else some rest)
          | none => .wrong (.noSuchOption [mark, letter] [])
      | argument => .wrong (.noSuchOption argument [])

namespace Arguments

/-- Adds an option in front. -/
def addOption (option : OptionNames) (value : Text) (arguments : Arguments) : Arguments :=
  { arguments with options := (option, value) :: arguments.options }

/-- Adds another argument in front. -/
def addOther (argument : Text) (arguments : Arguments) : Arguments :=
  { arguments with others := argument :: arguments.others }

/-- Sorts arguments. Unless they are `mixed`, no option is read after the first argument that is
none. -/
def read (known : List OptionNames) (mixed : Bool) :
    List Text → Except ArgumentError Arguments
  | [] => .ok ⟨[], []⟩
  | argument :: rest =>
      if argument = optionsEnd then .ok ⟨[], rest⟩
      else if isOption argument then
        match readOption known argument with
        | .wrong error => .error error
        | .given option value => (read known mixed rest).map (addOption option value)
        | .valueNext option name =>
            match rest with
            | [] => .error (.valueMissing name)
            | value :: rest => (read known mixed rest).map (addOption option value)
      else if mixed then (read known mixed rest).map (addOther argument)
      else .ok ⟨[], argument :: rest⟩

/-- The last value given to an option. -/
def value? (option : OptionNames) (arguments : Arguments) : Option Text :=
  (arguments.options.reverse.find? fun (given, _) => given = option).map Prod.snd

/-- The options with the values that count, each at the place where it first stands. -/
def lastValues (arguments : Arguments) : List (OptionNames × Text) :=
  (arguments.options.map Prod.fst).eraseDups.filterMap fun option =>
    (arguments.value? option).map fun value => (option, value)

end Arguments
end AtomicCss.CommandLine
