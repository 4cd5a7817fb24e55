import Mathlib.Data.Char
import Mathlib.Data.List.Lex
import Mathlib.Data.Prod.Lex
import DiagCheck.Config.Checker

/-! The most relevant violation. Violations are ordered by their paths, and of several with one
path the first counts, so what a faithful checker says of a value is determined. -/
namespace DiagCheck.Config

/-- What a faithful checker answers if a value has these violations. -/
inductive Answers (xs : List Violation) : Except Complaint Unit → Prop where
  | accepted : xs = [] → Answers xs (.ok ())
  | reported : (∀ y ∈ xs, y.flaw.isWritable = true) → IsBest xs x →
      Answers xs (.error (.violation x.path x.flaw.message))
  | failed : y ∈ xs → y.flaw.isWritable = false → Answers xs (.error (.failure tooLongToWrite))

variable {x y z : Violation} {xs : List Violation} {s : Schema} {v : Value} {check : Checker}

namespace Violation

/-- Less is more relevant. -/
def rank (x : Violation) : Lex (Nat × OrderDual (List Text)) :=
  toLex (x.path.length, OrderDual.toDual x.path)

theorem outranks_iff : x.outranks y ↔ x.rank < y.rank := by
  rw [rank, rank, Prod.Lex.toLex_lt_toLex]
  rfl

theorem outranks_irrefl (x : Violation) : ¬x.outranks x := by
  rw [outranks_iff]
  exact lt_irrefl x.rank

/-- What the better of two outranks does not outrank the other. -/
theorem not_outranks_of (h : ¬y.outranks x) (above : y.outranks z) : ¬z.outranks x := by
  rw [outranks_iff, not_lt] at *
  exact h.trans above.le

theorem not_outranks_of_not (h : ¬y.outranks x) (above : ¬z.outranks y) : ¬z.outranks x := by
  rw [outranks_iff, not_lt] at *
  exact h.trans above

end Violation

open Violation

theorem IsBest.mem (h : IsBest xs x) : x ∈ xs := by
  obtain ⟨before, after, rfl, -, -⟩ := h
  simp

theorem IsBest.not_outranked (h : IsBest xs x) (inside : y ∈ xs) : ¬y.outranks x := by
  obtain ⟨before, after, rfl, first, last⟩ := h
  rcases List.mem_append.mp inside with earlier | later
  · exact not_outranks_of (outranks_irrefl x) (first y earlier)
  · rcases List.mem_cons.mp later with rfl | later
    · exact outranks_irrefl y
    · exact last y later

namespace Schema

theorem best?_eq_none_iff : best? xs = none ↔ xs = [] := by
  cases xs with
  | nil => exact iff_of_true rfl rfl
  | cons x xs =>
    rw [best?]
    split <;> simp

theorem isBest_of_best? (h : best? xs = some x) : IsBest xs x := by
  induction xs generalizing x with
  | nil => cases h
  | cons first xs ih =>
    rw [best?] at h
    split at h
    · next none =>
      cases h
      rw [best?_eq_none_iff.mp none]
      exact ⟨[], [], rfl, List.forall_mem_nil _, List.forall_mem_nil _⟩
    · next y best =>
      obtain ⟨before, after, rfl, earlier, later⟩ := ih best
      by_cases above : y.outranks first
      · rw [if_pos above] at h
        cases h
        exact ⟨first :: before, after, rfl, List.forall_mem_cons.mpr ⟨above, earlier⟩, later⟩
      · rw [if_neg above] at h
        cases h
        refine ⟨[], _, rfl, List.forall_mem_nil _, fun z inside => ?_⟩
        rcases List.mem_append.mp inside with h | h
        · exact not_outranks_of above (earlier z h)
        · rcases List.mem_cons.mp h with rfl | h
          · exact above
          · exact not_outranks_of_not above (later z h)

theorem best?_of_isBest (h : IsBest xs x) : best? xs = some x := by
  obtain ⟨before, after, rfl, first, last⟩ := h
  induction before with
  | nil =>
    rw [List.nil_append, best?]
    split
    · rfl
    · next y best => rw [if_neg (last y (isBest_of_best? best).mem)]
  | cons y before ih =>
    obtain ⟨above, first⟩ := List.forall_mem_cons.mp first
    rw [List.cons_append, best?, ih first]
    exact congrArg some (if_pos above)

theorem best?_eq_some_iff : best? xs = some x ↔ IsBest xs x :=
  ⟨isBest_of_best?, best?_of_isBest⟩

end Schema

theorem IsBest.unique (h : IsBest xs x) (other : IsBest xs y) : x = y := by
  rw [← Schema.best?_eq_some_iff] at h other
  exact Option.some.inj (h.symm.trans other)

theorem exists_isBest (some : xs ≠ []) : ∃ x, IsBest xs x := by
  cases best : Schema.best? xs with
  | none => exact absurd (Schema.best?_eq_none_iff.mp best) some
  | some x => exact ⟨x, Schema.best?_eq_some_iff.mp best⟩

theorem faithful_check : Checker.Faithful Schema.check where
  accepts none := by
    rw [Schema.check, none]
    rfl
  reports writable best := by
    rw [Schema.check, Schema.best?_eq_some_iff.mpr best]
    exact if_pos (List.all_eq_true.mpr writable)
  fails {z t w} inside unwritable := by
    have all : ¬(t.violations w).all (·.flaw.isWritable) = true := by
      rw [List.all_eq_true]
      intro writable
      simp [writable z inside] at unwritable
    obtain ⟨x, best⟩ := exists_isBest (List.ne_nil_of_mem inside)
    rw [Schema.check, Schema.best?_eq_some_iff.mpr best]
    exact if_neg all

theorem Checker.Faithful.answers (faithful : check.Faithful) (s : Schema) (v : Value) :
    Answers (s.violations v) (check s v) := by
  by_cases none : s.violations v = []
  · rw [faithful.accepts none]
    exact .accepted none
  · by_cases writable : ∀ y ∈ s.violations v, y.flaw.isWritable = true
    · obtain ⟨x, best⟩ := exists_isBest none
      rw [faithful.reports writable best]
      exact .reported writable best
    · simp only [not_forall, Bool.not_eq_true] at writable
      obtain ⟨y, inside, unwritable⟩ := writable
      rw [faithful.fails inside unwritable]
      exact .failed inside unwritable

/-- Faithful checkers agree on all values. -/
theorem Checker.Faithful.eq_check (faithful : check.Faithful) (s : Schema) (v : Value) :
    check s v = Schema.check s v := by
  have answers := faithful.answers s v
  generalize check s v = answer at answers
  cases answers with
  | accepted none => exact (faithful_check.accepts none).symm
  | reported writable best => exact (faithful_check.reports writable best).symm
  | failed inside unwritable => exact (faithful_check.fails inside unwritable).symm

theorem Checker.Faithful.congr (faithful : check.Faithful) {v w : Value}
    (h : s.violations v = s.violations w) : check s v = check s w := by
  rw [faithful.eq_check, faithful.eq_check, Schema.check, Schema.check, h]

theorem Checker.Faithful.eq_ok_iff (faithful : check.Faithful) {u : Unit} :
    check s v = .ok u ↔ s.violations v = [] := by
  refine ⟨fun h => ?_, faithful.accepts⟩
  have answers := faithful.answers s v
  rw [h] at answers
  cases answers with
  | accepted none => exact none

end DiagCheck.Config
