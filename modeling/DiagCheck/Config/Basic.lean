import DiagCheck.Config.Fault
import DiagCheck.Text.Word

/-!
# Runner configurations

A configuration names the factory of the compiler stack and may set the version, error recovery,
the lead of printed lines and colour. It is made from a value that a checker has found to be what
the schema says.
-/

namespace DiagCheck

structure Config where
  pipeline : Text
  evmVersion : Text := "constantinople".toList
  recovery : Bool := false
  lead : Text := "  ".toList
  formatted : Bool := true
  deriving DecidableEq, Repr

namespace Config

/-! ## The schema -/

def isNameCharacter (c : Char) : Bool := isWord c || c == '.'

def isName (t : Text) : Bool := t != [] && t.all isNameCharacter

def isNamePair (t : Text) : Bool :=
  match Text.cut? ':' t with
  | some (m, a) => isName m && isName a
  | none => false

/-- A pair of names, which one newline may follow. -/
def isSpecification (t : Text) : Bool :=
  isNamePair t || (t.getLast? == some '\n' && isNamePair t.dropLast)

/-- Halves of surrogate pairs are no characters of names. -/
def isFound (ps : Points) : Bool := ps == ps.toText.points && isSpecification ps.toText

def specification : Pattern where
  text := "^[\\w.]+:[\\w.]+$".toList
  isFound

def pipelineKey : Text := "pipeline".toList
def evmVersionKey : Text := "evm_version".toList
def recoveryKey : Text := "parser_error_recovery".toList
def leadKey : Text := "line_prefix".toList
def formattedKey : Text := "formatted".toList

def schema : Schema where
  properties := [
    (pipelineKey, [.type .string, .pattern specification]),
    (evmVersionKey, [.type .string, .minLength 1]),
    (recoveryKey, [.type .boolean]),
    (leadKey, [.type .string]),
    (formattedKey, [.type .boolean])]
  required := [pipelineKey]

/-! ## Values -/

/-- The member of that name if it can be viewed so, and `default` if there is none. -/
def member (entries : List (Scalar × Value)) (name : Text) (view : Value → Option α)
    (default : α) : Option α :=
  match Value.member? name entries with
  | none => some default
  | some v => view v

def ofEntries (entries : List (Scalar × Value)) : Option Config := do
  let pipeline ← (Value.member? pipelineKey entries).bind Value.text?
  let d : Config := { pipeline }
  let evmVersion ← member entries evmVersionKey Value.text? d.evmVersion
  let recovery ← member entries recoveryKey Value.bool? d.recovery
  let lead ← member entries leadKey Value.text? d.lead
  let formatted ← member entries formattedKey Value.bool? d.formatted
  return { pipeline, evmVersion, recovery, lead, formatted }

def build : Value → Except Fault Config
  | .map entries =>
    if schema.unknown entries = [] then
      match ofEntries entries with
      | some c => .ok c
      | none => .error .unbuilt
    else .error .unbuilt
  | _ => .error .unbuilt

def ofValue (check : Checker) (v : Value) : Except Fault Config :=
  match check schema v with
  | .error c => .error (.ofComplaint c)
  | .ok _ => build v

end Config

end DiagCheck
