import DiagCheck.TestCase.Report

/-!
# Running a test

A test is run once. A run examines the source on a stack, keeps the diagnostics obtained, and
reports how they differ from those expected.
-/

namespace DiagCheck.TestCase

structure Run where
  test : TestCase
  stack : Compiler.Stack
  log : List LogLine := []
  /-- What the run reported, also if it ended in a fault. -/
  report : Text := []
  result : Except Fault Bool

def conclude (t : TestCase) (stack : Compiler.Stack) (log : List LogLine)
    (obtained : List Diagnostic) (lead : Text) (formatted : Bool) : Run :=
  let t := { t with obtained }
  let report := t.printDifference lead formatted
  ⟨t, stack, log, report.text, report.result.mapError .report⟩

def settle (t : TestCase) (lead : Text) (formatted : Bool)
    (x : Compiler.Examination (Except Compiler.Fault Compiler.Outcome)) : Run :=
  match x.result with
  | .error f => { test := t, stack := x.stack, log := x.log, result := .error (.compiler f) }
  | .ok (.inconsistent i) =>
    { test := t, stack := x.stack, log := x.log, result := .error (.inconsistent i) }
  | .ok (.diagnostics ds) => t.conclude x.stack x.log ds lead formatted

def opening (t : TestCase) : LogLine := .running t.name t.options.evmVersion t.optimise

/-- Runs the test. It counts as run as soon as it begins. -/
def run (t : TestCase) (stack : Compiler.Stack) (lead : Text) (formatted : Bool) : Run :=
  if t.hasRun then { test := t, stack, result := .error (.alreadyRun t.name) }
  else
    let r := settle { t with hasRun := true } lead formatted (stack.examine t.job)
    { r with log := t.opening :: r.log }

/-- A test that has run leaves the stack alone, reports nothing and stays as it is. -/
theorem run_of_hasRun {t : TestCase} (h : t.hasRun = true) (stack : Compiler.Stack) (lead : Text)
    (formatted : Bool) :
    t.run stack lead formatted =
      { test := t, stack, result := .error (.alreadyRun t.name) } := by
  simp [run, h]

theorem test_settle (t : TestCase) (lead : Text) (formatted : Bool)
    (x : Compiler.Examination (Except Compiler.Fault Compiler.Outcome)) :
    ∃ ds, (t.settle lead formatted x).test = { t with obtained := ds } := by
  unfold settle
  split
  · exact ⟨t.obtained, rfl⟩
  · exact ⟨t.obtained, rfl⟩
  · next ds _ => exact ⟨ds, rfl⟩

/-- A run changes nothing of a test but what was obtained and that it has run. -/
theorem test_run (t : TestCase) (stack : Compiler.Stack) (lead : Text) (formatted : Bool) :
    ∃ ds, (t.run stack lead formatted).test = { t with obtained := ds, hasRun := true } := by
  by_cases h : t.hasRun = true
  · exact ⟨t.obtained, by rw [run_of_hasRun h, ← h]⟩
  · obtain ⟨ds, hds⟩ := test_settle { t with hasRun := true } lead formatted (stack.examine t.job)
    exact ⟨ds, by simpa [run, h] using hds⟩

end DiagCheck.TestCase
