import DiagCheck.Proofs.TestCase.Updated
import DiagCheck.CommandLine.FileRun

/-! The steps of running one file. A file is loaded or has a fault, and a run of its test is
concluded with a verdict, a fault or an update. The stack is left alone or gets one job. -/
namespace DiagCheck.CommandLine

open Compiler TestCase

variable {c : Config} {d : Directory} {path : Text} {t : TestCase} {stack : Stack}

/-- What comes of a file with a fault. -/
def verdictOf (f : TestCase.Fault) : Except TestCase.Fault Verdict :=
  if f.endsTest then .ok .errored else .error f

theorem verdictOf_ne_passed (f : TestCase.Fault) : verdictOf f ≠ .ok .passed := by
  unfold verdictOf
  split <;> exact nofun

theorem verdictOf_ne_failed (f : TestCase.Fault) : verdictOf f ≠ .ok .failed := by
  unfold verdictOf
  split <;> exact nofun

theorem load_eq_ok_iff :
    load c d path = .ok t ↔ ofFile d path (options c) = .ok t ∧ t.settings = [] := by
  unfold load
  cases ofFile d path (options c) with
  | error f => simp [Except.bind]
  | ok u =>
    by_cases h : u.settings = []
    · simp only [Except.bind, validate, if_pos h, Except.map, Except.ok.injEq]
      constructor
      · rintro rfl
        exact ⟨rfl, h⟩
      · exact fun h => h.1
    · simp only [Except.bind, validate, if_neg h, Except.map, Except.ok.injEq]
      constructor
      · intro h
        cases h
      · rintro ⟨rfl, none⟩
        exact absurd none h

theorem load_of_fault {f : TestCase.Fault} (h : ofFile d path (options c) = .error f) :
    load c d path = .error f := by
  rw [load, h]
  rfl

theorem load_of_unknown (h : ofFile d path (options c) = .ok t) (some : t.settings ≠ []) :
    load c d path = .error (.unknownSettings t.settings.keys) := by
  simp only [load, h, Except.bind, validate, if_neg some, Except.map]

theorem load_of_obstacle {o : Directory.Obstacle} (h : d.read path = .error o)
    (ordinary : o ≠ .nulCharacter) : load c d path = .error (.unopenable path) := by
  apply load_of_fault
  unfold ofFile
  rw [h]
  split
  · next nul =>
    cases nul
    exact absurd rfl ordinary
  · rfl
  · next read => cases read

theorem load_of_sections {text : Text} {e : Sections.Defect}
    (content : d.read path = .ok (Utf8.encode text))
    (split : Sections.ofLines (Text.lines text) = .error e) :
    load c d path = .error (.sections e) := by
  apply load_of_fault
  simp only [ofFile_of_text content, ofText, ofLines, split]

theorem load_of_expectation {text : Text} {parts : Sections} {f : Expectation.Failure}
    (content : d.read path = .ok (Utf8.encode text))
    (split : Sections.ofLines (Text.lines text) = .ok parts)
    (read : Expectation.readAll parts.annotations = .error f) :
    load c d path = .error (.expectation f) := by
  apply load_of_fault
  simp only [ofFile_of_text content, ofText, ofLines, split, ofSections, read]

theorem load_of_key {text key : Text} {parts : Sections} {es : List Diagnostic}
    (content : d.read path = .ok (Utf8.encode text))
    (split : Sections.ofLines (Text.lines text) = .ok parts)
    (read : Expectation.readAll parts.annotations = .ok es) (there : key ∈ parts.settings.keys)
    (other : key ≠ optimiseKey) : ∃ names, load c d path = .error (.unknownSettings names) := by
  have made : ofFile d path (options c) = .ok _ :=
    (ofFile_of_text content _).trans (ofText_eq_ok_iff.mpr ⟨parts, es, split, read, rfl⟩)
  refine ⟨_, load_of_unknown made ?_⟩
  obtain ⟨⟨k, value⟩, entry, rfl⟩ := List.mem_map.mp there
  have kept : (k, value) ∈ parts.settings.erase optimiseKey := by
    simpa [Settings.erase, entry] using other
  exact List.ne_nil_of_mem kept

theorem fresh_of_load (h : load c d path = .ok t) : t.Fresh :=
  (Built.file d path (options c) (load_eq_ok_iff.mp h).1).fresh

theorem runFile_of_fault {f : TestCase.Fault} (h : load c d path = .error f) (accept : Bool)
    (stack : Option Stack) :
    (runFile c accept d stack path).result = verdictOf f ∧
    (runFile c accept d stack path).directory = d ∧
    (runFile c accept d stack path).stack = stack := by
  simp only [runFile, h, verdictOf]
  split
  · exact ⟨rfl, rfl, rfl⟩
  · exact ⟨rfl, rfl, rfl⟩

theorem runFile_of_load (h : load c d path = .ok t) (accept : Bool) (stack : Stack) :
    runFile c accept d (some stack) path =
      conclude c accept d path (t.run stack c.lead c.formatted) := by
  simp only [runFile, h]

theorem conclude_of_fault {f : TestCase.Fault} {r : TestCase.Run} (h : r.result = .error f)
    (c : Config) (accept : Bool) (d : Directory) (path : Text) :
    (conclude c accept d path r).result = verdictOf f ∧
    (conclude c accept d path r).directory = d := by
  simp only [conclude, h, verdictOf]
  split
  · exact ⟨rfl, rfl⟩
  · exact ⟨rfl, rfl⟩

theorem conclude_of_passed {r : TestCase.Run} (h : r.result = .ok true) (c : Config)
    (accept : Bool) (d : Directory) (path : Text) :
    (conclude c accept d path r).result = .ok .passed ∧
    (conclude c accept d path r).directory = d := by
  simp only [conclude, h, and_self]

/-- A failing file is updated with leave to do so, and no fault can come up any more. -/
theorem conclude_of_failed {r : TestCase.Run} (h : r.result = .ok false)
    (writable : ∀ e ∈ r.test.obtained, e.Writable) (c : Config) (accept : Bool) (d : Directory)
    (path : Text) :
    (conclude c accept d path r).result = .ok .failed ∧
    (conclude c accept d path r).directory =
      if accept then d.write path (Utf8.encode r.test.printUpdated.text) else d := by
  cases accept with
  | false => simp [conclude, h]
  | true => simp [conclude, h, update, printUpdated_of_writable writable]

/-- A test whose expectations differ from what was found fails, since the difference of the two can
be told. -/
theorem run_of_differing (h : load c d path = .ok t) (collects : stack.upcoming.Collects)
    (differ : t.expectations ≠ stack.upcoming.diagnostics)
    (writable : ∀ e ∈ stack.upcoming.diagnostics, e.Writable) (lead : Text) (formatted : Bool) :
    (t.run stack lead formatted).result = .ok false ∧
    (t.run stack lead formatted).test =
      { t with obtained := stack.upcoming.diagnostics, hasRun := true } := by
  have fresh := fresh_of_load h
  have expected : ∀ e ∈ t.expectations, e.Writable := fun e he => (fresh.expectations e he).2
  exact ⟨(run_eq_false_iff fresh.hasRun).mpr ⟨collects, differ, expected, writable⟩,
    (run_of_collects fresh.hasRun collects lead formatted).1⟩

/-- What comes of a file whose test was run. -/
def judge : Except TestCase.Fault Bool → Except TestCase.Fault Verdict
  | .error f => verdictOf f
  | .ok true => .ok .passed
  | .ok false => .ok .failed

theorem judge_eq_passed_iff {x : Except TestCase.Fault Bool} :
    judge x = .ok .passed ↔ x = .ok true := by
  rcases x with f | _ | _
  · simp [judge, verdictOf_ne_passed]
  · simp [judge]
  · simp [judge]

theorem judge_eq_failed_iff {x : Except TestCase.Fault Bool} :
    judge x = .ok .failed ↔ x = .ok false := by
  rcases x with f | _ | _
  · simp [judge, verdictOf_ne_failed]
  · simp [judge]
  · simp [judge]

theorem result_runFile (h : load c d path = .ok t) (accept : Bool) (stack : Stack) :
    (runFile c accept d (some stack) path).result =
      judge (t.run stack c.lead c.formatted).result := by
  have fresh := (fresh_of_load h).hasRun
  rw [runFile_of_load h]
  cases returned : (t.run stack c.lead c.formatted).result with
  | error f => exact (conclude_of_fault returned c accept d path).1
  | ok b =>
    cases b with
    | true => exact (conclude_of_passed returned c accept d path).1
    | false =>
      obtain ⟨collects, _, _, writable⟩ := (run_eq_false_iff fresh).mp returned
      have left := (run_of_collects fresh collects c.lead c.formatted).1
      have obtained : ∀ e ∈ (t.run stack c.lead c.formatted).test.obtained, e.Writable := by
        rw [left]
        exact writable
      exact (conclude_of_failed returned obtained c accept d path).1

theorem load_config (c other : Config) (d : Directory) (path : Text) :
    load other d path = (load c d path).map fun t => { t with options := options other } := by
  unfold load
  rw [ofFile_options d path (options c) (options other)]
  cases ofFile d path (options c) with
  | error f => rfl
  | ok t =>
    simp only [Except.map, Except.bind, validate]
    split <;> rfl

/-- The verdict depends on the file and on the script. The configuration has no say in it, nor
has the leave to update. -/
theorem result_runFile_congr {other : Stack} (script : stack.upcoming = other.upcoming)
    (c c' : Config) (accept accept' : Bool) (d : Directory) (path : Text) :
    (runFile c accept d (some stack) path).result =
      (runFile c' accept' d (some other) path).result := by
  cases loaded : load c d path with
  | error f =>
    have same : load c' d path = .error f := by rw [load_config c c', loaded]; rfl
    rw [(runFile_of_fault loaded accept (some stack)).1,
      (runFile_of_fault same accept' (some other)).1]
  | ok t =>
    have same : load c' d path = .ok { t with options := options c' } := by
      rw [load_config c c', loaded]
      rfl
    rw [result_runFile loaded, result_runFile same]
    exact congrArg judge (result_run_congr (fresh_of_load loaded).hasRun
      (fresh_of_load same).hasRun rfl script _ _ _ _)

theorem stack_conclude (c : Config) (accept : Bool) (d : Directory) (path : Text)
    (r : TestCase.Run) : (conclude c accept d path r).stack = some r.stack := by
  unfold conclude
  split
  · split <;> rfl
  · rfl
  · split
    · unfold update
      dsimp only
      split <;> rfl
    · rfl

/-- A file whose test is run leaves the stack prepared for it, with the calls of the script. -/
theorem stack_runFile (h : load c d path = .ok t) (accept : Bool) (stack : Stack) :
    (runFile c accept d (some stack) path).stack = some { stack.prepare t.job with
      calls := stack.calls ++ Stack.setup t.job ++ stack.upcoming.calls } := by
  rw [runFile_of_load h, stack_conclude, stack_run (fresh_of_load h).hasRun,
    (stack.examine_follows t.job).2]

theorem calls_runFile (h : load c d path = .ok t) (accept : Bool) (stack : Stack) :
    (runFile c accept d (some stack) path).stack.map (·.calls) =
      some (stack.calls ++ (Stack.setup t.job ++ stack.upcoming.calls)) := by
  rw [stack_runFile h]
  simp

end DiagCheck.CommandLine
