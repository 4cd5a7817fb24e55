import DiagCheck.Compiler.Failure
import DiagCheck.Config.Schema

/-!
# Checkers

Values are checked against schemas by a checker from outside. It is faithful if it lets exactly the
values without violations pass and complains of the most relevant violation of any other. All
messages are put together before one is chosen, so a number that cannot be written makes the
checker fail wherever it stands.
-/

namespace DiagCheck.Config

open Compiler (Failure)

inductive Complaint where
  | violation (path : List Text) (message : Text)
  | failure (f : Failure)

abbrev Checker := Schema → Value → Except Complaint Unit

/-- How writing a number with too many digits fails. -/
def tooLongToWrite : Failure := .ofName "ValueError".toList false (some Numeral.tooLongToWrite)

/-- The first of those that no other outranks. -/
def IsBest (xs : List Violation) (x : Violation) : Prop :=
  ∃ before after, xs = before ++ x :: after ∧ (∀ y ∈ before, x.outranks y) ∧
    ∀ y ∈ after, ¬y.outranks x

structure Checker.Faithful (check : Checker) : Prop where
  accepts : s.violations v = [] → check s v = .ok ()
  reports : (∀ y ∈ s.violations v, y.flaw.isWritable = true) → IsBest (s.violations v) x →
    check s v = .error (.violation x.path x.flaw.message)
  fails : y ∈ s.violations v → y.flaw.isWritable = false →
    check s v = .error (.failure tooLongToWrite)

namespace Schema

def best? : List Violation → Option Violation
  | [] => none
  | x :: xs => match best? xs with
    | none => some x
    | some y => some (if y.outranks x then y else x)

def check : Checker := fun s v =>
  match best? (s.violations v) with
  | none => .ok ()
  | some x =>
    if (s.violations v).all (·.flaw.isWritable) then .error (.violation x.path x.flaw.message)
    else .error (.failure tooLongToWrite)

end Schema

end DiagCheck.Config
