import AtomicCss.CommandLine.Command

/-! # The program

Reads what the command line names from the working directory, runs the command and prints its
report. All decisions are made by `CommandLine.run`. -/

namespace AtomicCss.Program

open CommandLine

/-- What stands under a path on disk. -/
def readEntry (path : Text) : IO (Option Entry) := do
  let name := String.ofList path
  try
    let content ← IO.FS.readBinFile name
    return some (.file content.toList)
  catch _ =>
    try
      return if ← (← IO.FS.realPath name).isDir then some .folder else none
    catch _ =>
      return none

/-- Every path that a command line may need: its words, the values in them, and the usual
settings file. -/
def neededPaths (words : List Text) : List Text :=
  let named := words.flatMap fun word =>
    let value := match Text.cut '=' word with
      | (_, some value) => [value]
      | (_, none) => []
    word :: word.drop 2 :: value
  Directory.settingsName :: named.filter (· ≠ [])

/-- The places that the walk along a path comes to. -/
def placesOn (path : Text) (directory : Directory) : List Place :=
  let (places, _) := (Text.splitOn '/' path).foldl
    (fun (state : List Place × Place) name =>
      let place := state.2.step name
      (place :: state.1, place))
    ([], directory.start path)
  places.reverse

/-- The part of the working directory, and of what is around it, that a command line may
need. -/
def readDirectory (words : List Text) : IO Directory := do
  let mut directory : Directory := ⟨(← IO.currentDir).toString.toList, []⟩
  for path in neededPaths words do
    for place in placesOn path directory do
      let name := directory.nameOf place
      if name ≠ [] then
        if let some entry ← readEntry name then
          directory := { directory with entries := OrderedMap.set name entry directory.entries }
  return directory

/-- Prints a report and writes its files. -/
def publish (report : Report) : IO UInt32 := do
  for notice in report.notices do
    IO.eprintln (String.ofList notice.message)
  for (name, content) in report.written do
    IO.FS.writeBinFile (String.ofList name) ⟨content.toArray⟩
  IO.print (String.ofList report.out)
  IO.eprint (String.ofList report.err)
  if let some breakdown := report.breakdown then
    IO.eprintln (String.ofList breakdown.message)
  return report.exitCode.toUInt32

end AtomicCss.Program

def main (arguments : List String) : IO UInt32 := do
  let words := arguments.map String.toList
  let directory ← AtomicCss.Program.readDirectory words
  AtomicCss.Program.publish (AtomicCss.CommandLine.run .plain directory words)
