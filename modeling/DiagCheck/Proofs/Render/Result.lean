import DiagCheck.TestCase.Report

/-! When writing goes through. A listing, and with it the difference of two lists, is written
in full unless an offset has too many digits; colour has no say in this. -/
namespace DiagCheck

@[simp] theorem Output.result_bind (x : Output α) (f : α → Output β) :
    (x >>= f).result = x.result.bind fun a => (f a).result := by
  obtain ⟨text, e | a⟩ := x
  · rfl
  · rfl

namespace Listing

theorem result_printLine (lead : Text) (formatted : Bool) (d : Diagnostic) :
    (printLine lead formatted d).result =
      if d.Writable then .ok () else .error .offsetTooLong := by
  unfold printLine
  rw [Output.result_bind, Output.result_styled]
  by_cases h : d.Writable
  · simp [Output.write, Except.bind, h]
  · simp [Output.write, Output.fail, Except.bind, h]

theorem result_printLines (lead : Text) (formatted : Bool) (ds : List Diagnostic) :
    (printLines lead formatted ds).result =
      if ∀ d ∈ ds, d.Writable then .ok () else .error .offsetTooLong := by
  induction ds with
  | nil => rfl
  | cons d ds ih =>
    simp only [printLines, Output.result_bind, result_printLine, ih]
    by_cases h : d.Writable
    · simp [h, Except.bind]
    · simp [h, Except.bind]

theorem result_print (lead : Text) (formatted : Bool) (ds : List Diagnostic) :
    (print lead formatted ds).result =
      if ∀ d ∈ ds, d.Writable then .ok () else .error .offsetTooLong := by
  by_cases h : ds = []
  · simp [print, h, Output.write, Except.bind]
  · simp only [print, h, if_false, result_printLines]

end Listing

namespace TestCase

theorem result_printHeading (lead : Text) (formatted : Bool) (title : Text) :
    (printHeading lead formatted title).result = .ok () := by
  simp [printHeading, Output.write, Except.bind]

/-- The lists agree, or their difference is written, or an offset is too long for it. -/
theorem result_printDifference (t : TestCase) (lead : Text) (formatted : Bool) :
    (t.printDifference lead formatted).result =
      if t.expectations = t.obtained then .ok true
      else if (∀ d ∈ t.expectations, d.Writable) ∧ ∀ d ∈ t.obtained, d.Writable then .ok false
      else .error .offsetTooLong := by
  unfold printDifference passed
  by_cases same : t.expectations = t.obtained
  · simp [same, Output.pure]
  · simp only [same, decide_false, Bool.false_eq_true, if_false, Output.result_bind,
      result_printHeading, Listing.result_print]
    by_cases expected : ∀ d ∈ t.expectations, d.Writable
    · by_cases obtained : ∀ d ∈ t.obtained, d.Writable
      · simp only [if_pos expected, if_pos obtained, if_pos (And.intro expected obtained)]
        rfl
      · have not : ¬((∀ d ∈ t.expectations, d.Writable) ∧ ∀ d ∈ t.obtained, d.Writable) :=
          fun h => obtained h.2
        simp only [if_pos expected, if_neg obtained, if_neg not]
        rfl
    · have not : ¬((∀ d ∈ t.expectations, d.Writable) ∧ ∀ d ∈ t.obtained, d.Writable) :=
        fun h => expected h.1
      simp only [if_neg expected, if_neg not]
      rfl

end TestCase

end DiagCheck
