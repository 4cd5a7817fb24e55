import DiagCheck.Text.Basic

/-!
# Failures of a compiler

A compiler stack may fail instead of answering. A failure has a name and may have a text. What
becomes of it depends on its reach: the lack of a feature is a finding, some failures end one
test, and an interrupt is never held back.
-/

namespace DiagCheck.Compiler

inductive Reach where
  /-- Code generation met a construct that it does not have. -/
  | unimplemented
  /-- The configuration is at fault; in a test it ends that test only. -/
  | configuration
  /-- The failure ends one test. -/
  | test
  | ordinary
  | interrupt
  deriving DecidableEq, Repr

structure Failure where
  name : Text
  reach : Reach
  text : Option Text
  deriving DecidableEq, Repr

namespace Failure

def knownNames : List (Text × Reach) := [
  ("UnimplementedFeatureError".toList, .unimplemented),
  ("UnimplementedSubclass".toList, .unimplemented),
  ("ConfigError".toList, .configuration),
  ("SyntaxTestError".toList, .test),
  ("TestFileError".toList, .test),
  ("InternalConsistencyError".toList, .test)]

/-- A failure of the given name. One whose name is not known is ordinary or an interrupt. -/
def ofName (name : Text) (interrupts : Bool) (text : Option Text) : Failure where
  name
  reach := (knownNames.lookup name).getD (if interrupts then .interrupt else .ordinary)
  text

/-- What is said of the failure. Only the lack of a feature has words of its own. -/
def message (f : Failure) : Text :=
  match f.reach, f.text with
  | .unimplemented, none | .unimplemented, some [] => "Unimplemented feature".toList
  | _, some t => t
  | _, none => []

def isConfiguration (f : Failure) : Bool := f.reach == .configuration

def endsTest (f : Failure) : Bool := f.reach == .test || f.reach == .configuration

end Failure

end DiagCheck.Compiler
