import DiagCheck.CommandLine.FileRun
import DiagCheck.CommandLine.Usage

/-!
# Sessions

A session runs the files of a command line in order, on one stack and in one directory, and ends
with a count of the verdicts. A fault that is not a file's own ends it at once.
-/

namespace DiagCheck.CommandLine

structure FileRuns where
  output : Text := []
  log : List LogLine := []
  directory : Directory
  stack : Option Compiler.Stack
  result : Except TestCase.Fault (List Verdict)

/-- Runs the files in order up to the first fault. -/
def runFiles (c : Config) (accept : Bool) (d : Directory) (stack : Option Compiler.Stack) :
    List Text → FileRuns
  | [] => { directory := d, stack, result := .ok [] }
  | path :: paths =>
    let r := runFile c accept d stack path
    match r.result with
    | .error f => ⟨r.output, r.log, r.directory, r.stack, .error f⟩
    | .ok v =>
      let rs := runFiles c accept r.directory r.stack paths
      ⟨r.output ++ rs.output, r.log ++ rs.log, rs.directory, rs.stack, rs.result.map (v :: ·)⟩

def rule : Text := List.replicate 70 '='

def tally (vs : List Verdict) : Text :=
  let count := fun v => Numeral.ofNat (vs.count v)
  count .passed ++ " passed, ".toList ++ count .failed ++ " failed, ".toList ++
    count .errored ++ " errored (".toList ++ Numeral.ofNat vs.length ++ " total)".toList

def banner (vs : List Verdict) : Text :=
  ['\n'] ++ rule ++ ['\n'] ++ tally vs ++ ['\n'] ++ rule ++ ['\n']

def exitStatus (vs : List Verdict) : Nat := if vs.all (· = .passed) then 0 else 1

inductive Escape where
  | start (f : StartFault)
  | test (f : TestCase.Fault)

def Escape.message : Escape → Text
  | start f => f.message
  | test f => f.message

structure Session where
  output : Text := []
  complaint : Text := []
  log : List LogLine := []
  /-- The label of the factory that made the stack, and the stack, if there is one. -/
  factory : Option Text := none
  stack : Option Compiler.Stack := none
  directory : Directory
  /-- The exit status, unless a fault ended the program. -/
  result : Except Escape Nat

namespace Session

def ofRuns (factory : Option Text) (verbose : Bool) (r : FileRuns) : Session :=
  let s : Session := {
    output := r.output
    log := if verbose then r.log else []
    factory
    stack := r.stack
    directory := r.directory
    result := (r.result.map exitStatus).mapError .test }
  match r.result with
  | .error _ => s
  | .ok vs => { s with output := r.output ++ banner vs }

/-- Runs what the arguments ask for. The stack has the given scripts at first. -/
def ofArguments (env : Environment) (scripts : List Compiler.Script) (d : Directory)
    (a : Arguments) : Session :=
  match start env a d with
  | .error f =>
    if f.isConfiguration then
      { output := "ERROR: ".toList ++ f.message ++ ['\n'], directory := d, result := .ok 1 }
    else { directory := d, result := .error (.start f) }
  | .ok (c, product) =>
    let stack := product.label?.map fun _ => { queue := scripts }
    ofRuns product.label? a.verbose (runFiles c a.accept d stack a.files)

def run (env : Environment) (scripts : List Compiler.Script) (d : Directory)
    (argv : List Text) : Session :=
  match Arguments.ofWords argv with
  | .error .help => { output := helpText, directory := d, result := .ok 0 }
  | .error (.fault f) => { complaint := f.complaint, directory := d, result := .ok 2 }
  | .ok a => ofArguments env scripts d a

end Session

theorem count_verdicts (vs : List Verdict) :
    vs.count .passed + vs.count .failed + vs.count .errored = vs.length := by
  induction vs with
  | nil => rfl
  | cons v vs ih => cases v <;> simp <;> omega

/-- The banner tells how many files passed, failed and had errors, and the sum of these. -/
theorem banner_eq (vs : List Verdict) :
    banner vs = '\n' :: List.replicate 70 '=' ++ '\n' ::
      (Numeral.ofNat (vs.count .passed) ++ " passed, ".toList ++
        Numeral.ofNat (vs.count .failed) ++ " failed, ".toList ++
        Numeral.ofNat (vs.count .errored) ++ " errored (".toList ++
        Numeral.ofNat (vs.count .passed + vs.count .failed + vs.count .errored) ++
        " total)".toList) ++ '\n' :: List.replicate 70 '=' ++ ['\n'] := by
  rw [count_verdicts]
  simp only [banner, tally, rule, List.append_assoc, List.cons_append, List.nil_append]

example : tally [.passed, .errored, .passed] =
    "2 passed, 0 failed, 1 errored (3 total)".toList := by
  decide +kernel

end DiagCheck.CommandLine
