import DiagCheck.Config.Checker
import DiagCheck.File.Directory

/-!
# Faults of configurations

There may be no configuration because its file cannot be read or is no YAML text, or because what
the file says goes against the schema. These faults lie with the configuration and are reported to
the user. The others end the program.
-/

namespace DiagCheck.Config

open Compiler (Failure)

inductive Fault where
  | unreadable (path : Text) (o : Directory.Obstacle)
  | notYaml (path detail : Text)
  | violation (path : List Text) (message : Text)
  | failure (f : Failure)
  /-- The value has passed the checker and still makes up no configuration. -/
  | unbuilt

namespace Fault

def isConfiguration : Fault → Bool
  | unreadable _ o => o = .missing
  | notYaml _ _ | violation _ _ => true
  | failure f => f.isConfiguration
  | unbuilt => false

def obstacleMessage (path : Text) : Directory.Obstacle → Text
  | .missing => "Configuration file not found: ".toList ++ path
  | .isDirectory => "[Errno 21] Is a directory: ".toList ++ Text.quoted path
  | .notDirectory => "[Errno 20] Not a directory: ".toList ++ Text.quoted path
  | .nameTooLong => "[Errno 36] File name too long: ".toList ++ Text.quoted path
  | .nulCharacter => "embedded null byte".toList

/-- Where a violation is. Of the whole value nothing is said. -/
def place (path : List Text) : Text :=
  let steps := Text.join " -> ".toList path
  if steps = [] then [] else " (at ".toList ++ steps ++ [')']

def message : Fault → Text
  | unreadable path o => obstacleMessage path o
  | notYaml path detail => "Invalid YAML in ".toList ++ path ++ [':', ' '] ++ detail
  | violation path message => "Invalid configuration: ".toList ++ (message ++ place path)
  | failure f => f.message
  | unbuilt => "The values make up no configuration.".toList

def ofComplaint : Complaint → Fault
  | .violation path message => .violation path message
  | .failure f => .failure f

end Fault

end DiagCheck.Config
