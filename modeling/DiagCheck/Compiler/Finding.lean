import DiagCheck.Diagnostic

/-!
# Findings

A finding is what a compiler reports of the text it was given. A test's source is compiled
behind a version line, so offsets are moved back by the length of that line, and an end that
lies in the line itself is dropped.
-/

namespace DiagCheck.Compiler

structure Finding where
  kind : Text
  comment : Option Text
  span : Option (Int × Int)
  /-- Whether the finding only adds to another one; a compiler may leave this out. -/
  secondary : Option Bool
  deriving DecidableEq, Repr

def versionLine : Text := "pragma solidity >=0.0;\n".toList

/-- A comment on one line, with `\n` for each newline, or `NONE` if nothing is said. -/
def commentText : Option Text → Text
  | none | some [] => "NONE".toList
  | some t => t.flatMap fun c => if c = '\n' then ['\\', 'n'] else [c]

/-- An offset behind a lead of `length` characters, counted from the end of the lead. -/
def shift (length offset : Int) : Int := if length ≤ offset then offset - length else absent

namespace Finding

/-- The finding as a diagnostic of a source that follows a lead of `length` characters. -/
def toDiagnostic (length : Int) (f : Finding) : Diagnostic :=
  match f.span with
  | none => { kind := f.kind, message := commentText f.comment }
  | some (start, stop) =>
    { kind := f.kind, message := commentText f.comment,
      start := shift length start, stop := shift length stop }

/-- The findings that stand on their own, if every finding says which it is. -/
def primary? (fs : List Finding) : Option (List Finding) :=
  if fs.all fun f => f.secondary.isSome then some (fs.filter fun f => f.secondary == some false)
  else none

end Finding

theorem versionLine_length : versionLine.length = 23 := by decide

/-- A shifted offset is known exactly if the offset is not in the lead. -/
theorem shift_nonneg_iff {length offset : Int} : 0 ≤ shift length offset ↔ length ≤ offset := by
  unfold shift absent
  split <;> omega

theorem shift_of_le {length offset : Int} (h : length ≤ offset) :
    shift length offset = offset - length := by
  simp [shift, h]

end DiagCheck.Compiler
