import DiagCheck.Proofs.CommandLine.FileRun

/-! How a file is judged. What is in the file, the script of the stack and the leave to update
decide the verdict or the fault, the bytes that are left and the calls that the stack received;
the configuration only tells how the test is compiled. -/
namespace DiagCheck.CommandLine

open Compiler TestCase

/-- How a file is judged on a stack with the script `s`: the verdict or the fault, the directory
that is left, and the calls that the stack received. -/
inductive Judged (c : Config) (accept : Bool) (d : Directory) (s : Script) (path : Text) :
    Except TestCase.Fault Verdict → Directory → List Call → Prop where
  | unopenable : d.read path = .error o → o ≠ .nulCharacter →
      Judged c accept d s path (.ok .errored) d []
  | sections : d.read path = .ok (Utf8.encode text) →
      Sections.ofLines (Text.lines text) = .error e →
      Judged c accept d s path (.ok .errored) d []
  | malformed : d.read path = .ok (Utf8.encode text) →
      Sections.ofLines (Text.lines text) = .ok parts →
      Expectation.readAll parts.annotations = .error f → f.defect.isMalformed = true →
      Judged c accept d s path (.ok .errored) d []
  | tooLong : d.read path = .ok (Utf8.encode text) →
      Sections.ofLines (Text.lines text) = .ok parts →
      Expectation.readAll parts.annotations = .error f → f.defect = .numeralTooLong n →
      Judged c accept d s path (.error (.expectation f)) d []
  | unknown : d.read path = .ok (Utf8.encode text) →
      Sections.ofLines (Text.lines text) = .ok parts →
      Expectation.readAll parts.annotations = .ok es → key ∈ parts.settings.keys →
      key ≠ optimiseKey → Judged c accept d s path (.ok .errored) d []
  | failed : load c d path = .ok t → call ∈ s.calls → call ≠ .compile → s.Fails f call →
      Judged c accept d s path
        (if f.endsTest then .ok .errored else .error (.compiler (.failure f))) d
        (Stack.setup t.job ++ s.calls)
  | refused : load c d path = .ok t → .compile ∈ s.calls → s.compile = .ok false →
      Judged c accept d s path (.ok .errored) d (Stack.setup t.job ++ s.calls)
  | crashed : load c d path = .ok t → .compile ∈ s.calls → s.compile = .error f →
      f.reach ≠ .unimplemented → f.reach ≠ .interrupt →
      Judged c accept d s path (.ok .errored) d (Stack.setup t.job ++ s.calls)
  | interrupted : load c d path = .ok t → .compile ∈ s.calls → s.compile = .error f →
      f.reach = .interrupt →
      Judged c accept d s path (.error (.compiler (.failure f))) d
        (Stack.setup t.job ++ s.calls)
  | unmarked : load c d path = .ok t → .findings ∈ s.calls → s.refusal = none →
      (∃ g ∈ s.findings, g.secondary = none) →
      Judged c accept d s path (.error (.compiler .unmarkedFinding)) d
        (Stack.setup t.job ++ s.calls)
  | passed : load c d path = .ok t → s.Collects → t.expectations = s.diagnostics →
      Judged c accept d s path (.ok .passed) d (Stack.setup t.job ++ s.calls)
  | differed : load c d path = .ok t → s.Collects → t.expectations ≠ s.diagnostics →
      Judged c accept d s path (.ok .failed)
        (if accept then
          d.write path (Utf8.encode { t with obtained := s.diagnostics }.printUpdated.text)
        else d)
        (Stack.setup t.job ++ s.calls)

/-- What a run of a file leaves behind. -/
def Leaves (r : FileRun) (stack : Stack) (x : Except TestCase.Fault Verdict) (d : Directory)
    (calls : List Call) : Prop :=
  r.result = x ∧ r.directory = d ∧ r.stack.map (·.calls) = some (stack.calls ++ calls)

variable {c : Config} {d : Directory} {path : Text} {t : TestCase} {stack : Stack}

theorem leaves_of_fault {f : TestCase.Fault} (h : load c d path = .error f) (accept : Bool)
    (stack : Stack) :
    Leaves (runFile c accept d (some stack) path) stack (verdictOf f) d [] := by
  obtain ⟨result, directory, same⟩ := runFile_of_fault h accept (some stack)
  exact ⟨result, directory, by simp [same]⟩

theorem leaves_of_compiler_fault {f : Compiler.Fault} (h : load c d path = .ok t)
    (course : stack.upcoming.Course (.error f)) (accept : Bool) :
    Leaves (runFile c accept d (some stack) path) stack (verdictOf (.compiler f)) d
      (Stack.setup t.job ++ stack.upcoming.calls) := by
  have run := run_of_fault (fresh_of_load h).hasRun course c.lead c.formatted
  have left := conclude_of_fault run.1 c accept d path
  rw [← runFile_of_load h] at left
  exact ⟨left.1, left.2, calls_runFile h accept stack⟩

theorem leaves_of_inconsistent {i : Inconsistency} (h : load c d path = .ok t)
    (course : stack.upcoming.Course (.ok (.inconsistent i))) (accept : Bool) :
    Leaves (runFile c accept d (some stack) path) stack (.ok .errored) d
      (Stack.setup t.job ++ stack.upcoming.calls) := by
  have run := run_of_inconsistent (fresh_of_load h).hasRun course c.lead c.formatted
  have left := conclude_of_fault run.1 c accept d path
  rw [← runFile_of_load h] at left
  exact ⟨left.1, left.2, calls_runFile h accept stack⟩

theorem leaves_of_agreeing (h : load c d path = .ok t) (collects : stack.upcoming.Collects)
    (agree : t.expectations = stack.upcoming.diagnostics) (accept : Bool) :
    Leaves (runFile c accept d (some stack) path) stack (.ok .passed) d
      (Stack.setup t.job ++ stack.upcoming.calls) := by
  have passed : (t.run stack c.lead c.formatted).result = .ok true :=
    (run_eq_true_iff (fresh_of_load h).hasRun).mpr ⟨collects, agree⟩
  have left := conclude_of_passed passed c accept d path
  rw [← runFile_of_load h] at left
  exact ⟨left.1, left.2, calls_runFile h accept stack⟩

theorem leaves_of_differing (h : load c d path = .ok t) (collects : stack.upcoming.Collects)
    (differ : t.expectations ≠ stack.upcoming.diagnostics) (writable : stack.upcoming.Writable)
    (accept : Bool) :
    Leaves (runFile c accept d (some stack) path) stack (.ok .failed)
      (if accept then
        d.write path (Utf8.encode
          { t with obtained := stack.upcoming.diagnostics }.printUpdated.text)
      else d)
      (Stack.setup t.job ++ stack.upcoming.calls) := by
  have obtained := Script.writable_diagnostics writable
  obtain ⟨failed, test⟩ := run_of_differing h collects differ obtained c.lead c.formatted
  have left := conclude_of_failed failed (by rw [test]; exact obtained) c accept d path
  rw [← runFile_of_load h, test] at left
  refine ⟨left.1, ?_, calls_runFile h accept stack⟩
  rw [left.2, printUpdated_eq, printUpdated_eq]
  rfl

theorem Judged.leaves {accept : Bool} {x : Except TestCase.Fault Verdict} {after : Directory}
    {calls : List Call} (h : Judged c accept d stack.upcoming path x after calls)
    (writable : stack.upcoming.Writable) :
    Leaves (runFile c accept d (some stack) path) stack x after calls := by
  cases h with
  | unopenable obstacle ordinary =>
    exact leaves_of_fault (load_of_obstacle obstacle ordinary) accept stack
  | sections content split => exact leaves_of_fault (load_of_sections content split) accept stack
  | malformed content split read malformed =>
    have left := leaves_of_fault (c := c) (load_of_expectation content split read) accept stack
    simpa [verdictOf, Fault.endsTest, malformed] using left
  | tooLong content split read long =>
    have left := leaves_of_fault (c := c) (load_of_expectation content split read) accept stack
    simpa [verdictOf, Fault.endsTest, long, Expectation.Defect.isMalformed] using left
  | unknown content split read there other =>
    obtain ⟨names, fault⟩ := load_of_key (c := c) content split read there other
    exact leaves_of_fault fault accept stack
  | failed loaded made other fails =>
    exact leaves_of_compiler_fault loaded (.failed made other fails) accept
  | refused loaded reached refused =>
    exact leaves_of_inconsistent loaded (.refused reached refused) accept
  | crashed loaded reached failed lacks interrupts =>
    exact leaves_of_inconsistent loaded (.crashed reached failed lacks interrupts) accept
  | interrupted loaded reached failed interrupts =>
    have left := leaves_of_compiler_fault loaded (.interrupted reached failed interrupts) accept
    simpa [verdictOf, Fault.endsTest, Failure.endsTest, interrupts] using left
  | unmarked loaded asked given unmarked =>
    exact leaves_of_compiler_fault loaded (.unmarked asked given unmarked) accept
  | passed loaded collects agree => exact leaves_of_agreeing loaded collects agree accept
  | differed loaded collects differ =>
    exact leaves_of_differing loaded collects differ writable accept

theorem exists_judged_of_load (h : load c d path = .ok t) (accept : Bool) (stack : Stack) :
    ∃ x after calls, Judged c accept d stack.upcoming path x after calls := by
  obtain ⟨course, _⟩ := stack.examine_follows t.job
  generalize (stack.examine t.job).result = y at course
  cases course with
  | failed made other fails => exact ⟨_, _, _, .failed h made other fails⟩
  | refused reached refused => exact ⟨_, _, _, .refused h reached refused⟩
  | crashed reached failed lacks interrupts =>
    exact ⟨_, _, _, .crashed h reached failed lacks interrupts⟩
  | interrupted reached failed interrupts =>
    exact ⟨_, _, _, .interrupted h reached failed interrupts⟩
  | unmarked asked given unmarked => exact ⟨_, _, _, .unmarked h asked given unmarked⟩
  | collected collects =>
    by_cases agree : t.expectations = stack.upcoming.diagnostics
    · exact ⟨_, _, _, .passed h collects agree⟩
    · exact ⟨_, _, _, .differed h collects agree⟩

theorem exists_judged_of_text {text : Text} (content : d.read path = .ok (Utf8.encode text))
    (accept : Bool) (stack : Stack) :
    ∃ x after calls, Judged c accept d stack.upcoming path x after calls := by
  cases split : Sections.ofLines (Text.lines text) with
  | error e => exact ⟨_, _, _, .sections content split⟩
  | ok parts =>
    cases read : Expectation.readAll parts.annotations with
    | error f =>
      cases defect : f.defect with
      | numeralTooLong n => exact ⟨_, _, _, .tooLong content split read defect⟩
      | offsetExpected | characterExpected c =>
        exact ⟨_, _, _, .malformed content split read (by rw [defect]; rfl)⟩
    | ok es =>
      by_cases known : ∀ key ∈ parts.settings.keys, key = optimiseKey
      · have made : ofFile d path (options c) = .ok _ :=
          (ofFile_of_text content _).trans (ofText_eq_ok_iff.mpr ⟨parts, es, split, read, rfl⟩)
        have none : parts.settings.erase optimiseKey = [] := by
          refine List.filter_eq_nil_iff.mpr ?_
          rintro ⟨key, value⟩ entry
          have own := known key (List.mem_map.mpr ⟨_, entry, rfl⟩)
          simp [own]
        exact exists_judged_of_load (load_eq_ok_iff.mpr ⟨made, none⟩) accept stack
      · simp only [Classical.not_forall] at known
        obtain ⟨key, there, other⟩ := known
        exact ⟨_, _, _, .unknown content split read there other⟩

/-- A file is judged in one way. So whatever goes wrong with it is no pass, and only a test that
was carried through and failed has its file updated. -/
theorem judged_iff (content : (∃ o, d.read path = .error o ∧ o ≠ .nulCharacter) ∨
      ∃ text, d.read path = .ok (Utf8.encode text))
    (writable : stack.upcoming.Writable) {accept : Bool} {x : Except TestCase.Fault Verdict}
    {after : Directory} {calls : List Call} :
    Judged c accept d stack.upcoming path x after calls ↔
      Leaves (runFile c accept d (some stack) path) stack x after calls := by
  constructor
  · intro judged
    exact judged.leaves writable
  · intro left
    -- Some case applies, and by the other direction it says just what the run leaves.
    have judged : ∃ x after calls, Judged c accept d stack.upcoming path x after calls := by
      rcases content with ⟨o, obstacle, ordinary⟩ | ⟨text, content⟩
      · exact ⟨_, _, _, .unopenable obstacle ordinary⟩
      · exact exists_judged_of_text content accept stack
    obtain ⟨y, after', calls', judged⟩ := judged
    have same := judged.leaves writable
    have result : y = x := same.1.symm.trans left.1
    have directory : after' = after := same.2.1.symm.trans left.2.1
    have made : stack.calls ++ calls' = stack.calls ++ calls :=
      Option.some.inj (same.2.2.symm.trans left.2.2)
    obtain rfl := List.append_cancel_left made
    exact result ▸ directory ▸ judged

/-- The finding lies behind the end of the source, so no mark can be put on it. -/
theorem judged_outside :
    let text := "contract C {}\n// ----\n// Warning: old\n".toList
    let path := "./c.sol".toList
    let c : Config := { pipeline := "scripted".toList }
    let d : Directory := [("c.sol".toList, Utf8.encode text)]
    let found : Finding := {
      kind := "TypeError".toList, comment := some "bad".toList, span := some (923, 924),
      secondary := some false }
    let stack : Stack := { queue := [{ findings := [found] }] }
    let t : TestCase := {
      name := path, options := {}, source := "contract C {}\n".toList, settings := [],
      optimise := false, expectations := [{ kind := "Warning".toList, message := "old".toList }] }
    d.read path = .ok (Utf8.encode text) ∧ stack.upcoming.Writable ∧
      Leaves (runFile c true d (some stack) path) stack (.ok .failed)
        [("c.sol".toList, Utf8.encode
          "contract C {}\n// ----\n// TypeError: (900-901): bad\n".toList)]
        (Stack.setup t.job ++ [.parse, .analyze, .compile, .findings]) := by
  intro text path c d found stack t
  have content : d.read path = .ok (Utf8.encode text) := by decide +kernel
  have fits : Numeral.Fits 923 ∧ Numeral.Fits 924 := by decide +kernel
  have writable : stack.upcoming.Writable := by
    intro f hf r span
    obtain rfl := List.mem_singleton.mp hf
    cases span
    exact fits
  have loaded : load c d path = .ok t := by decide +kernel
  have collects : stack.upcoming.Collects := by decide
  have judged : Judged c true d stack.upcoming path _ _ _ :=
    .differed loaded collects (by decide)
  have left := (judged_iff (.inr ⟨text, content⟩) writable).mp judged
  have updated : d.write path (Utf8.encode
      { t with obtained := stack.upcoming.diagnostics }.printUpdated.text) =
      [("c.sol".toList, Utf8.encode
        "contract C {}\n// ----\n// TypeError: (900-901): bad\n".toList)] := by decide +kernel
  exact ⟨content, writable, updated ▸ left⟩

end DiagCheck.CommandLine
