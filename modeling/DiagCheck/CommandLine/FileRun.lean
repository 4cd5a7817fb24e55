import DiagCheck.CommandLine.Start
import DiagCheck.TestCase.Run

/-!
# Running one file

A file is loaded, checked and run, and a block of text tells what came of it. A failing file may
be updated, so that its annotations say what was obtained.
-/

namespace DiagCheck.CommandLine

inductive Verdict where
  | passed
  | failed
  /-- The test could not be carried through. -/
  | errored
  deriving DecidableEq, Repr

structure FileRun where
  /-- The block that was printed, also if the run ended in a fault. -/
  output : Text := []
  log : List LogLine := []
  directory : Directory
  /-- There may be no stack, which shows when a test is to be run. -/
  stack : Option Compiler.Stack
  result : Except TestCase.Fault Verdict

def options (c : Config) : TestCase.Options where
  evmVersion := c.evmVersion
  recovery := c.recovery

/-- The test in a file, all settings of which are understood. -/
def load (c : Config) (d : Directory) (path : Text) : Except TestCase.Fault TestCase :=
  (TestCase.ofFile d path (options c)).bind fun t => t.validate.map fun _ => t

def passedBlock (path : Text) : Text := "✓ ".toList ++ path ++ ['\n']

def crossLine (path : Text) : Text := "✗ ".toList ++ path ++ ['\n']

def errorBlock (lead path message : Text) : Text :=
  crossLine path ++ lead ++ "ERROR: ".toList ++ message ++ ['\n']

def closeLine (t : Text) : Text := if t.getLast? = some '\n' then t else t ++ ['\n']

/-- The source with the obtained diagnostics marked, or with a warning in front and no marks if
one of them lies outside. -/
def sourceBlock (c : Config) (t : TestCase) : Text :=
  let lead := c.lead ++ c.lead
  let marked := t.printSource lead c.formatted
  match marked.result with
  | .ok _ => closeLine marked.text
  | .error f =>
    c.lead ++ "WARNING: ".toList ++ f.message ++ ['\n'] ++ closeLine (t.printSource lead false).text

def failedBlock (c : Config) (path : Text) (t : TestCase) (report : Text) : Text :=
  crossLine path ++ c.lead ++ "Contract:\n".toList ++ sourceBlock c t ++ report

def updatedLine (lead path : Text) : Text :=
  lead ++ "Updated expectations in ".toList ++ path ++ ['\n']

/-- Updates a failing file. What could be written before a fault stays written. -/
def update (c : Config) (path : Text) (t : TestCase) (r : FileRun) : FileRun :=
  let updated := t.printUpdated
  let r := { r with directory := r.directory.write path (Utf8.encode updated.text) }
  match updated.result with
  | .ok _ => { r with output := r.output ++ updatedLine c.lead path }
  | .error f => { r with result := .error (.report f) }

def conclude (c : Config) (accept : Bool) (d : Directory) (path : Text) (r : TestCase.Run) :
    FileRun :=
  match r.result with
  | .error f =>
    if f.endsTest then
      { output := errorBlock c.lead path f.message, log := r.log, directory := d,
        stack := some r.stack, result := .ok .errored }
    else { log := r.log, directory := d, stack := some r.stack, result := .error f }
  | .ok true =>
    { output := passedBlock path, log := r.log, directory := d, stack := some r.stack,
      result := .ok .passed }
  | .ok false =>
    let failed : FileRun := {
      output := failedBlock c path r.test r.report, log := r.log, directory := d,
      stack := some r.stack, result := .ok .failed }
    if accept then update c path r.test failed else failed

def runFile (c : Config) (accept : Bool) (d : Directory) (stack : Option Compiler.Stack)
    (path : Text) : FileRun :=
  match load c d path with
  | .error f =>
    if f.endsTest then
      { output := errorBlock c.lead path f.message, directory := d, stack,
        result := .ok .errored }
    else { directory := d, stack, result := .error f }
  | .ok t => match stack with
    | some stack => conclude c accept d path (t.run stack c.lead c.formatted)
    | none => { log := [t.opening], directory := d, stack, result := .error .noStack }

/-- A file that cannot be loaded leaves the stack alone. -/
theorem stack_runFile_of_load_error {c : Config} {d : Directory} {path : Text}
    {f : TestCase.Fault} (h : load c d path = .error f) (accept : Bool)
    (stack : Option Compiler.Stack) :
    (runFile c accept d stack path).stack = stack := by
  simp only [runFile, h]
  split <;> rfl

theorem directory_runFile (c : Config) (d : Directory) (stack : Option Compiler.Stack)
    (path : Text) : (runFile c false d stack path).directory = d := by
  unfold runFile
  split
  · split <;> rfl
  · split
    · unfold conclude
      split
      · split <;> rfl
      · rfl
      · rfl
    · rfl

theorem stack_runFile_none (c : Config) (accept : Bool) (d : Directory) (path : Text) :
    (runFile c accept d none path).stack = none := by
  unfold runFile
  split
  · split <;> rfl
  · rfl

end DiagCheck.CommandLine
