import DiagCheck.Render.Style

/-!
# Listings of diagnostics

A listing has one line `kind: (start-stop): message` per diagnostic, or the single line
`Success` if there is none. The lines of an uncoloured listing are annotation lines if each is
led by slashes and a blank.
-/

namespace DiagCheck.Listing

/-- One line; its kind is coloured by whether it is a warning. -/
def printLine (lead : Text) (formatted : Bool) (d : Diagnostic) : Output Unit := do
  Output.styled formatted [.bold, if d.isWarning then .yellow else .red]
    (Output.write (lead ++ d.kind ++ [':', ' ']))
  if d.Writable then Output.write (d.locationText ++ d.message ++ ['\n'])
  else Output.fail .offsetTooLong

def printLines (lead : Text) (formatted : Bool) : List Diagnostic → Output Unit
  | [] => Output.pure ()
  | d :: ds => do
    printLine lead formatted d
    printLines lead formatted ds

def print (lead : Text) (formatted : Bool) (ds : List Diagnostic) : Output Unit :=
  if ds = [] then do
    Output.styled formatted [.bold, .green] (Output.write (lead ++ "Success".toList))
    Output.write ['\n']
  else printLines lead formatted ds

def plainText (lead : Text) (ds : List Diagnostic) : Text :=
  if ds = [] then lead ++ "Success".toList ++ ['\n']
  else ds.flatMap fun d => lead ++ d.text ++ ['\n']

theorem printLines_plain {lead : Text} {ds : List Diagnostic} (h : ∀ d ∈ ds, d.Writable) :
    printLines lead false ds = ⟨ds.flatMap fun d => lead ++ d.text ++ ['\n'], .ok ()⟩ := by
  induction ds with
  | nil => rfl
  | cons d ds ih =>
    have hd : d.Writable := h d (List.mem_cons_self ..)
    have ih := ih fun e he => h e (List.mem_cons_of_mem _ he)
    simp [printLines, printLine, hd, ih, Output.write, Diagnostic.text]

theorem print_plain {lead : Text} {ds : List Diagnostic} (h : ∀ d ∈ ds, d.Writable) :
    print lead false ds = ⟨plainText lead ds, .ok ()⟩ := by
  by_cases hds : ds = []
  · simp [print, plainText, hds, Output.write]
  · simp [print, plainText, hds, printLines_plain h]

end DiagCheck.Listing
