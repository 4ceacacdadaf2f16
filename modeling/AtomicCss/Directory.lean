import AtomicCss.Machine
import AtomicCss.Notice
import AtomicCss.Text.Path

/-! # The working directory

What stands in the working directory and around it, where a path leads to, and how settings are
loaded. A path is walked step by step, and each step starts from a folder that is there. -/

namespace AtomicCss

/-- What stands at a place. -/
inductive Entry where
  | file (content : Bytes)
  | folder
  deriving DecidableEq, Repr

/-- The bytes of a file; a folder has none. -/
def Entry.content : Entry → Bytes
  | .file content => content
  | .folder => []

/-- Whether an entry is a folder. -/
def Entry.isFolder : Entry → Bool
  | .folder => true
  | _ => false

/-- A place: the steps from the root to it, the last one first. -/
abbrev Place := List Text

/-- The place that a step leads to. -/
def Place.step (name : Text) (place : Place) : Place :=
  if name = [] ∨ name = Text.stayStep then place
  else if name = Text.backStep then place.drop 1
  else name :: place

/-- The path of the working directory, and what stands in it and elsewhere. An entry in the
working directory has its path from there as its name, any other one its path from the root. -/
structure Directory where
  location : Text
  entries : OrderedMap Entry

/-- Why a path leads nowhere. -/
inductive PathFailure where
  | missing
  /-- A step from a file. -/
  | insideFile
  | tooLong
  deriving DecidableEq, Repr

/-- Why loading settings ends the program. -/
inductive LoadEnd where
  | raised (kind : EndKind) (text : Text)
  | pathTooLong
  deriving DecidableEq, Repr

/-- What comes of loading settings: notices, the settings or the end of the program, and what the
run of a settings file has left behind. -/
structure Loaded where
  notices : List Notice
  outcome : Except LoadEnd Configuration
  traces : Traces

/-- The standard settings. -/
def Loaded.standard (notices : List Notice) : Loaded := ⟨notices, .ok .standard, .none⟩

namespace Directory

/-- The most bytes that a step has. -/
def stepLimit : Nat := 255

/-- The most bytes that a path has. -/
def pathLimit : Nat := 4095

/-- The place of the working directory. -/
def home (directory : Directory) : Place :=
  (Text.splitOn '/' directory.location).foldl (fun place name => place.step name) []

/-- Whether a place is inside the working directory. -/
def isInside (place : Place) (directory : Directory) : Bool :=
  directory.home.isSuffixOf place

/-- The name of a place. -/
def nameOf (place : Place) (directory : Directory) : Text :=
  if directory.isInside place then
    Text.joinWith ['/'] (place.take (place.length - directory.home.length)).reverse
  else '/' :: Text.joinWith ['/'] place.reverse

/-- What stands at a place. The working directory and every folder on the way to something is
there. -/
def entryAt? (place : Place) (directory : Directory) : Option Entry :=
  if place.isSuffixOf directory.home then some .folder
  else
    let name := directory.nameOf place
    match OrderedMap.get? name directory.entries with
    | some entry => some entry
    | none =>
        if directory.entries.any fun (other, _) => (name ++ ['/']).isPrefixOf other then
          some .folder
        else none

/-- Takes one step from a place. -/
def step (place : Place) (name : Text) (directory : Directory) : Except PathFailure Place :=
  match directory.entryAt? place with
  | some .folder =>
      if name = Text.backStep then .ok (place.step name)
      else if stepLimit < name.byteSize then .error .tooLong
      else if (directory.entryAt? (place.step name)).isSome then .ok (place.step name)
      else .error .missing
  | some _ => .error .insideFile
  | none => .error .missing

/-- Takes one step after the other. -/
def walk (names : List Text) (place : Place) (directory : Directory) : Except PathFailure Place :=
  match names with
  | [] => .ok place
  | name :: rest =>
      match directory.step place name with
      | .error failure => .error failure
      | .ok place => walk rest place directory

/-- Where a path starts. -/
def start (path : Text) (directory : Directory) : Place :=
  if path.head? = some '/' then [] else directory.home

/-- The place that a path leads to. -/
def locate (path : Text) (directory : Directory) : Except PathFailure Place :=
  if path = [] ∨ '\x00' ∈ path then .error .missing
  else if pathLimit < path.byteSize then .error .tooLong
  else directory.walk (Text.splitOn '/' path) (directory.start path)

/-- What stands where a path leads to. -/
def find? (path : Text) (directory : Directory) : Option Entry :=
  match directory.locate path with
  | .ok place => directory.entryAt? place
  | .error _ => none

/-- Whether a path leads to a folder. -/
def hasFolder (path : Text) (directory : Directory) : Bool :=
  (directory.find? path).any Entry.isFolder

/-- The place where a file with this normalized path is written: it need not be there, but its
folder has to be. -/
def placeToWrite (path : Text) (directory : Directory) : Except PathFailure Place :=
  match directory.locate path with
  | .error .missing =>
      match directory.locate path.parentPath with
      | .error failure => .error failure
      | .ok place =>
          if (directory.entryAt? place).any Entry.isFolder then .ok (place.step path.lastStep)
          else .error .insideFile
  | result => result

/-- The directory after files have been written, one after the other, each by its name. -/
def withFiles (written : List (Text × Bytes)) (directory : Directory) : Directory :=
  { directory with
    entries := written.foldl (fun entries (name, content) =>
      OrderedMap.set name (.file content) entries) directory.entries }

/-- The files of the working directory that are new or changed after files have been written. -/
def changedBy (written : List (Text × Bytes)) (directory : Directory) : List (Text × Bytes) :=
  (OrderedMap.ofPairs written).filter fun (name, content) =>
    name.head? ≠ some '/' && OrderedMap.get? name directory.entries ≠ some (.file content)

/-- The absolute path of a normalized path. -/
def absolute (path : Text) (directory : Directory) : Text :=
  if path.head? = some '/' then path else directory.location ++ '/' :: path

/-- The name of the settings file that is looked for when none is named. -/
def settingsName : Text := "headwind.config.py".toList

/-- The settings of a file; messages show its path as `shown`. If the file is not loaded, the
standard settings hold. -/
def loadFile (machine : Machine) (shown path : Text) (content : Bytes) : Loaded :=
  let run := machine.runSettings path content
  match run.ending with
  | none => ⟨[], .ok (.ofRun run), run.traces⟩
  | some (.notLoaded reason) => ⟨[.settingsNotLoaded shown reason], .ok .standard, run.traces⟩
  | some (.ending kind text) => ⟨[], .error (.raised kind text), run.traces⟩

/-- Loads settings from the file under a path, or from the usual one. The standard settings hold
if there is no such file. -/
def loadSettings (machine : Machine) (path : Option Text) (directory : Directory) : Loaded :=
  let shown := match path with
    | some path => path.normalizePath
    | none => directory.absolute settingsName
  let path := (path.getD settingsName).normalizePath
  match directory.locate path with
  | .error .tooLong => ⟨[], .error .pathTooLong, .none⟩
  | .error _ => .standard []
  | .ok place =>
      if machine.loads path then
        match directory.entryAt? place with
        | some (.file content) => loadFile machine shown path content
        | some .folder =>
            .standard [.settingsNotLoaded shown
              ("[Errno 21] Is a directory: ".toList ++ Text.quoted (directory.absolute path))]
        | none => .standard []
      else .standard []

end Directory
end AtomicCss
