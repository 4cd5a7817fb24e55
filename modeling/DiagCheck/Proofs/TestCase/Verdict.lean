import DiagCheck.Proofs.Compiler.Script
import DiagCheck.Proofs.Render.Result
import DiagCheck.Proofs.TestCase.Built

/-! What the run of a test comes to, told by the script of the stack and by the two lists. -/
namespace DiagCheck.TestCase

open Compiler

variable {t : TestCase} {stack : Stack}

theorem examine_result {x : Except Compiler.Fault Outcome} (course : stack.upcoming.Course x)
    (job : Job) : (stack.examine job).result = x :=
  (stack.examine_follows job).1.unique course

theorem run_of_fault {f : Compiler.Fault} (fresh : t.hasRun = false)
    (course : stack.upcoming.Course (.error f)) (lead : Text) (formatted : Bool) :
    (t.run stack lead formatted).result = .error (.compiler f) ∧
    (t.run stack lead formatted).test = { t with hasRun := true } := by
  simp [run, fresh, settle, examine_result course]

theorem run_of_inconsistent {i : Inconsistency} (fresh : t.hasRun = false)
    (course : stack.upcoming.Course (.ok (.inconsistent i))) (lead : Text) (formatted : Bool) :
    (t.run stack lead formatted).result = .error (.inconsistent i) ∧
    (t.run stack lead formatted).test = { t with hasRun := true } := by
  simp [run, fresh, settle, examine_result course]

/-- Where the findings are collected the lists are compared. A difference is reported unless an
offset has too many digits. -/
theorem run_of_collects (fresh : t.hasRun = false) (collects : stack.upcoming.Collects)
    (lead : Text) (formatted : Bool) :
    (t.run stack lead formatted).test =
      { t with obtained := stack.upcoming.diagnostics, hasRun := true } ∧
    (t.run stack lead formatted).result =
      if t.expectations = stack.upcoming.diagnostics then .ok true
      else if (∀ d ∈ t.expectations, d.Writable) ∧ ∀ d ∈ stack.upcoming.diagnostics, d.Writable
      then .ok false else .error (.report .offsetTooLong) := by
  have examined := examine_result (.collected collects) t.job
  constructor
  · simp [run, fresh, settle, examined, conclude]
  · simp only [run, fresh, Bool.false_eq_true, if_false, settle, examined, conclude,
      result_printDifference]
    split
    · rfl
    · split <;> rfl

/-- The report tells how the lists differ. -/
theorem report_run (fresh : t.hasRun = false) (collects : stack.upcoming.Collects) (lead : Text)
    (formatted : Bool) :
    (t.run stack lead formatted).report =
      ((t.run stack lead formatted).test.printDifference lead formatted).text := by
  simp [run, fresh, settle, examine_result (.collected collects) t.job, conclude]

theorem stack_run (fresh : t.hasRun = false) (lead : Text) (formatted : Bool) :
    (t.run stack lead formatted).stack = (stack.examine t.job).stack := by
  simp only [run, fresh, Bool.false_eq_true, if_false]
  unfold settle conclude
  split <;> rfl

/-- A run that returned has collected the findings, whether or not the lists agree. -/
theorem collects_of_run {b : Bool} {lead : Text} {formatted : Bool} (fresh : t.hasRun = false)
    (returned : (t.run stack lead formatted).result = .ok b) : stack.upcoming.Collects := by
  obtain ⟨course, _⟩ := stack.examine_follows t.job
  generalize (stack.examine t.job).result = x at course
  cases course with
  | collected collects => exact collects
  | failed made other fails =>
    have run := run_of_fault fresh (.failed made other fails) lead formatted
    simp [run.1] at returned
  | interrupted reached failed interrupts =>
    have run := run_of_fault fresh (.interrupted reached failed interrupts) lead formatted
    simp [run.1] at returned
  | unmarked asked given unmarked =>
    have run := run_of_fault fresh (.unmarked asked given unmarked) lead formatted
    simp [run.1] at returned
  | refused reached refused =>
    have run := run_of_inconsistent fresh (.refused reached refused) lead formatted
    simp [run.1] at returned
  | crashed reached failed lacks interrupts =>
    have run := run_of_inconsistent fresh (.crashed reached failed lacks interrupts) lead formatted
    simp [run.1] at returned

theorem hasRun_of_run {b : Bool} {lead : Text} {formatted : Bool}
    (returned : (t.run stack lead formatted).result = .ok b) : t.hasRun = false := by
  refine Bool.eq_false_iff.mpr ?_
  intro ran
  rw [run_of_hasRun ran] at returned
  cases returned

/-- A test fails if the findings differ from what it expects and the difference can be told. -/
theorem run_eq_false_iff (fresh : t.hasRun = false) {lead : Text} {formatted : Bool} :
    (t.run stack lead formatted).result = .ok false ↔
      stack.upcoming.Collects ∧ t.expectations ≠ stack.upcoming.diagnostics ∧
        (∀ d ∈ t.expectations, d.Writable) ∧ ∀ d ∈ stack.upcoming.diagnostics, d.Writable := by
  constructor
  · intro returned
    have collects := collects_of_run fresh returned
    rw [(run_of_collects fresh collects lead formatted).2] at returned
    split at returned
    · cases returned
    · next differ =>
      split at returned
      · next writable => exact ⟨collects, differ, writable⟩
      · cases returned
  · rintro ⟨collects, differ, writable⟩
    rw [(run_of_collects fresh collects lead formatted).2, if_neg differ, if_pos writable]

theorem run_eq_true_iff (fresh : t.hasRun = false) {lead : Text} {formatted : Bool} :
    (t.run stack lead formatted).result = .ok true ↔
      stack.upcoming.Collects ∧ t.expectations = stack.upcoming.diagnostics := by
  constructor
  · intro returned
    have collects := collects_of_run fresh returned
    rw [(run_of_collects fresh collects lead formatted).2] at returned
    split at returned
    · next agree => exact ⟨collects, agree⟩
    · split at returned <;> cases returned
  · rintro ⟨collects, agree⟩
    rw [(run_of_collects fresh collects lead formatted).2, if_pos agree]

/-- What a run comes to depends on the expectations and on the script alone. -/
theorem result_run_congr {u : TestCase} {other : Stack} (fresh : t.hasRun = false)
    (fresh' : u.hasRun = false) (expectations : t.expectations = u.expectations)
    (script : stack.upcoming = other.upcoming) (lead lead' : Text) (formatted formatted' : Bool) :
    (t.run stack lead formatted).result = (u.run other lead' formatted').result := by
  obtain ⟨course, _⟩ := stack.examine_follows t.job
  generalize (stack.examine t.job).result = x at course
  cases x with
  | error f =>
    rw [(run_of_fault fresh course lead formatted).1,
      (run_of_fault fresh' (script ▸ course) lead' formatted').1]
  | ok outcome =>
    cases outcome with
    | inconsistent i =>
      rw [(run_of_inconsistent fresh course lead formatted).1,
        (run_of_inconsistent fresh' (script ▸ course) lead' formatted').1]
    | diagnostics ds =>
      have collects : stack.upcoming.Collects := by
        cases course with
        | collected collects => exact collects
      rw [(run_of_collects fresh collects lead formatted).2,
        (run_of_collects fresh' (script ▸ collects) lead' formatted').2, expectations, script]

end DiagCheck.TestCase
