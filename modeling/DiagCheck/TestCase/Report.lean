import DiagCheck.TestCase.Basic
import DiagCheck.Render.Listing
import DiagCheck.Render.Overlay

/-!
# Reports of a test

What is shown of a test: the two lists where they differ, its source with the obtained
diagnostics marked, and the text of its file with annotations that say what was obtained.
-/

namespace DiagCheck.TestCase

def printHeading (lead : Text) (formatted : Bool) (title : Text) : Output Unit := do
  Output.styled formatted [.bold, .cyan] (Output.write (lead ++ title))
  Output.write ['\n']

/-- Shows both lists if they differ, and tells whether they agree. -/
def printDifference (t : TestCase) (lead : Text) (formatted : Bool) : Output Bool :=
  if t.passed then Output.pure true else do
    printHeading lead formatted "Expected result:".toList
    Listing.print (lead ++ [' ', ' ']) formatted t.expectations
    printHeading lead formatted "Obtained result:".toList
    Listing.print (lead ++ [' ', ' ']) formatted t.obtained
    return false

def printSource (t : TestCase) (lead : Text) (formatted : Bool) : Output Unit :=
  Overlay.print lead t.source t.obtained formatted

def printAnnotations (t : TestCase) (lead : Text) : Output Unit :=
  if t.obtained = [] then Output.pure ()
  else Listing.print (lead ++ "// ".toList) false t.obtained

def settingsText (t : TestCase) (lead : Text) : Text :=
  if t.understood = [] then []
  else lead ++ Sections.settingsMark ++ ['\n'] ++
    t.understood.flatMap fun (key, value) =>
      lead ++ "// ".toList ++ key ++ [':', ' '] ++ value ++ ['\n']

/-- The test file in which the annotations are what was obtained. -/
def printUpdated (t : TestCase) : Output Unit := do
  Output.write (t.source ++ t.settingsText [])
  Output.write (Sections.annotationsMark ++ ['\n'])
  t.printAnnotations []

end DiagCheck.TestCase
