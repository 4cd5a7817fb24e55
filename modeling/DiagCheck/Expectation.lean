import DiagCheck.Diagnostic

/-!
# Annotation lines

Below its source a test names the diagnostics it expects, one on a line:

    // TypeError: (10-20): Invalid type.
    // Warning: Unused local variable.

Slashes and blanks in front are skipped, the kind ends at the first colon, a span in
parentheses may follow, and the rest of the line is the message as it stands. A line with
nothing after its slashes and blanks expects nothing.
-/

namespace DiagCheck.Expectation

/-- The first token of a span that is not as it should be. -/
inductive Defect where
  | offsetExpected
  | characterExpected (c : Char)
  | numeralTooLong (digits : Nat)
  deriving DecidableEq, Repr

def readOffset (t : Text) : Except Defect (Nat × Text) :=
  let digits := t.takeWhile Char.isDigit
  if digits = [] then .error .offsetExpected
  else if Numeral.maxDigits < digits.length then .error (.numeralTooLong digits.length)
  else .ok (Numeral.toNat digits, t.dropWhile Char.isDigit)

def readCharacter (c : Char) : Text → Except Defect Text
  | [] => .error (.characterExpected c)
  | d :: t => if d = c then .ok t else .error (.characterExpected c)

/-- What follows an opening parenthesis: `start-stop):` and the rest. -/
def readSpan (t : Text) : Except Defect (Nat × Nat × Text) := do
  let (start, t) ← readOffset t
  let t ← readCharacter '-' t
  let (stop, t) ← readOffset t
  let t ← readCharacter ')' t
  let t ← readCharacter ':' t
  return (start, stop, t)

/-- A line without its end, its leading slashes and the blanks after them. -/
def body (line : Text) : Text :=
  Text.skipBlank ((Text.dropLineEnd line).dropWhile (· == '/'))

def readBody (t : Text) : Except Defect Diagnostic :=
  let kind := t.takeWhile (· != ':')
  let rest := Text.skipBlank ((t.dropWhile (· != ':')).drop 1)
  match rest with
  | '(' :: span => do
    let (start, stop, message) ← readSpan span
    return { kind, message := Text.skipBlank message, start, stop }
  | _ => return { kind, message := rest }

def read (line : Text) : Except Defect (Option Diagnostic) :=
  if body line = [] then .ok none else (readBody (body line)).map some

/-- A line that cannot be read, counted from one. -/
structure Failure where
  line : Nat
  defect : Defect
  deriving DecidableEq, Repr

/-- The diagnostics of the lines in order, the first line having the number `n`. -/
def readFrom (n : Nat) : List Text → Except Failure (List Diagnostic)
  | [] => .ok []
  | l :: ls => match read l with
    | .error defect => .error ⟨n, defect⟩
    | .ok none => readFrom (n + 1) ls
    | .ok (some d) => (readFrom (n + 1) ls).map (d :: ·)

def readAll (lines : List Text) : Except Failure (List Diagnostic) := readFrom 1 lines

/-- A number that is too long is reported as such; it does not count as a malformed line. -/
def Defect.isMalformed : Defect → Bool
  | .numeralTooLong _ => false
  | _ => true

def Defect.message : Defect → Text
  | .offsetExpected => "Invalid test expectation. Source location expected.".toList
  | .characterExpected c =>
    "Invalid test expectation. Expected character '".toList ++ [c] ++ "'.".toList
  | .numeralTooLong digits => Numeral.tooLongToRead digits

def Failure.message (f : Failure) : Text :=
  if f.defect.isMalformed then
    f.defect.message ++ " (expectation line ".toList ++ Numeral.ofNat f.line ++ [')']
  else f.defect.message

theorem read_eq_none_iff {line : Text} : read line = .ok none ↔ body line = [] := by
  unfold read
  split
  · simp [*]
  · cases readBody (body line) <;> simp [Except.map, *]

/-- Lines are read independently; a failure in the second part counts the lines of the first. -/
theorem readFrom_append (n : Nat) (ls ms : List Text) :
    readFrom n (ls ++ ms) = match readFrom n ls with
      | .error f => .error f
      | .ok ds => (readFrom (n + ls.length) ms).map (ds ++ ·) := by
  induction ls generalizing n with
  | nil => cases h : readFrom n ms <;> simp [readFrom, Except.map, h]
  | cons l ls ih =>
    have shift : n + (ls.length + 1) = n + 1 + ls.length := by omega
    simp only [List.cons_append, readFrom, List.length_cons, shift]
    split
    · rfl
    · exact ih (n + 1)
    · rw [ih (n + 1)]
      cases readFrom (n + 1) ls with
      | error f => rfl
      | ok ds => cases readFrom (n + 1 + ls.length) ms <;> rfl

end DiagCheck.Expectation
