import DiagCheck.Config.Basic

/-!
# Configuration files

A configuration file is read and loaded by a loader of YAML from outside. The value that comes of
it is checked and makes up the configuration.
-/

namespace DiagCheck.Config

inductive LoadFault where
  /-- The text is no YAML, for the reason given. -/
  | malformed (detail : Text)
  | failure (f : Compiler.Failure)

/-- What loads the value that the bytes of a file describe. The path is for its messages. -/
abbrev Loader := (path : Text) → Bytes → Except LoadFault Value

def Fault.ofLoad (path : Text) : LoadFault → Fault
  | .malformed detail => .notYaml path detail
  | .failure f => .failure f

def ofFile (load : Loader) (check : Checker) (d : Directory) (path : Text) : Except Fault Config :=
  match d.read path with
  | .error o => .error (.unreadable path o)
  | .ok bytes => match load path bytes with
    | .error f => .error (.ofLoad path f)
    | .ok v => ofValue check v

end DiagCheck.Config
