import DiagCheck.Text.Numeral

/-!
# Diagnostics

A diagnostic is what a test expects of the compiler and what the compiler is found to say: a
kind, a message and a span. Offsets count characters of the test's own source. Each of the two
may be missing without the other, which a negative number stands for.
-/

namespace DiagCheck

/-- The offset that stands for a missing end of a span. -/
def absent : Int := -1

structure Diagnostic where
  kind : Text
  message : Text
  start : Int := absent
  stop : Int := absent
  deriving DecidableEq, Repr

inductive Level where
  | none
  | warning
  | error
  deriving DecidableEq, Repr

namespace Level

def rank : Level → Nat
  | none => 0
  | warning => 1
  | error => 2

def join (a b : Level) : Level := if a.rank < b.rank then b else a

/-- Only the kind `Warning`, in this spelling, is a warning. -/
def ofKind (kind : Text) : Level := if kind = "Warning".toList then warning else error

theorem join_assoc (a b c : Level) : join (join a b) c = join a (join b c) := by
  cases a <;> cases b <;> cases c <;> rfl

end Level

namespace Diagnostic

def isWarning (d : Diagnostic) : Bool := d.kind == "Warning".toList

def hasLocation (d : Diagnostic) : Bool := 0 ≤ d.start || 0 ≤ d.stop

def hasSpan (d : Diagnostic) : Bool := 0 ≤ d.start && 0 ≤ d.stop

def level (d : Diagnostic) : Level := Level.ofKind d.kind

/-- A known offset in decimal, and nothing for a missing one. -/
def offsetText (offset : Int) : Text := if 0 ≤ offset then Numeral.ofInt offset else []

/-- The span as `(start-stop): `, or nothing if neither end is known. -/
def locationText (d : Diagnostic) : Text :=
  if d.hasLocation then
    ['('] ++ offsetText d.start ++ ['-'] ++ offsetText d.stop ++ [')', ':', ' ']
  else []

def text (d : Diagnostic) : Text := d.kind ++ [':', ' '] ++ d.locationText ++ d.message

/-- The known offsets have numerals that may be written. -/
def Writable (d : Diagnostic) : Prop :=
  (0 ≤ d.start → Numeral.Fits d.start) ∧ (0 ≤ d.stop → Numeral.Fits d.stop)

instance (d : Diagnostic) : Decidable d.Writable := inferInstanceAs (Decidable (_ ∧ _))

theorem writable_of_absent {d : Diagnostic} (start : d.start = absent) (stop : d.stop = absent) :
    d.Writable := by
  have unknown : ¬0 ≤ absent := by decide
  rw [Writable, start, stop]
  exact ⟨fun h => absurd h unknown, fun h => absurd h unknown⟩

end Diagnostic

end DiagCheck
