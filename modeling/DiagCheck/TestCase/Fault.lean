import DiagCheck.Expectation
import DiagCheck.Sections
import DiagCheck.Compiler.Examination
import DiagCheck.Render.Output

/-!
# Faults of a test

What can go wrong with a test: its file, its annotations, its settings, the compiler, or the
writing of a report. Some faults end only the test at hand, all others end the whole run.
-/

namespace DiagCheck.TestCase

inductive Fault where
  | unopenable (path : Text)
  | nulCharacter
  | sections (d : Sections.Defect)
  | expectation (f : Expectation.Failure)
  | unknownSettings (names : List Text)
  | alreadyRun (name : Text)
  /-- The test is to be run on something that is no compiler stack. -/
  | noStack
  | inconsistent (i : Compiler.Inconsistency)
  | compiler (f : Compiler.Fault)
  | report (f : Render.Fault)
  deriving DecidableEq, Repr

namespace Fault

def endsTest : Fault → Bool
  | unopenable _ | sections _ | unknownSettings _ | inconsistent _ => true
  | expectation f => f.defect.isMalformed
  | compiler (.failure f) => f.endsTest
  | nulCharacter | alreadyRun _ | noStack | compiler .unmarkedFinding | report _ => false

def message : Fault → Text
  | unopenable path => "Cannot open test contract: \"".toList ++ path ++ "\".".toList
  | nulCharacter => "embedded null byte".toList
  | sections d => d.message
  | expectation f => f.message
  | unknownSettings names =>
    "Unknown setting(s): ".toList ++ Text.join ", ".toList (Text.sort names)
  | alreadyRun name => "Syntax test ".toList ++ name ++ " has already been run.".toList
  | noStack => "There is no compiler stack.".toList
  | inconsistent i => i.reason
  | compiler (.failure f) => f.message
  | compiler .unmarkedFinding => "A finding does not say whether it is secondary.".toList
  | report f => f.message

end Fault

end DiagCheck.TestCase
