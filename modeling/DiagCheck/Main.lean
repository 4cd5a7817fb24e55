import DiagCheck.CommandLine.Scripted

/-!
# The program

Reads the files that the command line names from the working directory, runs the command line,
prints what it prints and writes the files that it changes.
-/

open DiagCheck DiagCheck.CommandLine

namespace DiagCheck.Main

/-- The files that a command line can have to do with. -/
def names (argv : List Text) : List Text :=
  match Arguments.ofWords argv with
  | .ok a => ((a.config :: a.files).filterMap Directory.name?).eraseDups
  | .error _ => []

def readFile (name : Text) : IO (Option (Text × Bytes)) := do
  try
    let bytes ← IO.FS.readBinFile (String.ofList name)
    return some (name, bytes.toList)
  catch _ => return none

def readDirectory (argv : List Text) : IO Directory := do
  return (← (names argv).mapM readFile).filterMap id

/-- Writes the files whose bytes are no longer the old ones. -/
def writeChanges (old new : Directory) : IO Unit := do
  for (name, bytes) in new do
    if old.lookup name ≠ some bytes then
      IO.FS.writeBinFile (String.ofList name) ⟨bytes.toArray⟩

/-- Prints what a session says and gives its exit status. -/
def report (s : Session) : IO UInt32 := do
  IO.print (String.ofList s.output)
  IO.eprint (String.ofList s.complaint)
  for line in s.log do
    IO.eprintln (String.ofList line.text)
  match s.result with
  | .ok status => return status.toUInt32
  | .error e =>
    IO.eprintln (String.ofList e.message)
    return 1

end DiagCheck.Main

def main (args : List String) : IO UInt32 := do
  let argv := args.map String.toList
  let d ← Main.readDirectory argv
  let s := Session.run CommandLine.scripted [] d argv
  Main.writeChanges d s.directory
  Main.report s
