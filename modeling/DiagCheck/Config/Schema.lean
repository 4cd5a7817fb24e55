import DiagCheck.Config.Value

/-!
# Schemas

A schema says which members a map has and what is demanded of their values. A value can go against
it in several places at once. The violations of a value come in a fixed order: those of the values
of the properties, then the required members that are missing, then the keys that are unknown.
-/

namespace DiagCheck.Config

inductive Kind where
  | object
  | string
  | boolean
  deriving DecidableEq, Repr

namespace Kind

def name : Kind → Text
  | object => "object".toList
  | string => "string".toList
  | boolean => "boolean".toList

def admits : Kind → Value → Bool
  | object, .map _ | string, .scalar (.text _) | boolean, .scalar (.bool _) => true
  | _, _ => false

end Kind

/-- A regular expression, and whether it is found in a text. -/
structure Pattern where
  text : Text
  isFound : Points → Bool

/-- The last two demand something of texts only. -/
inductive Demand where
  | type (k : Kind)
  | pattern (p : Pattern)
  | minLength (n : Nat)

/-- Other members than the properties are not allowed. -/
structure Schema where
  properties : List (Text × List Demand)
  required : List Text

inductive Flaw where
  | notOfType (v : Value) (k : Kind)
  | noMatch (ps : Points) (pattern : Text)
  | tooShort (ps : Points) (least : Nat)
  | missing (name : Text)
  /-- The keys in the order in which they are reported. -/
  | unknownKeys (keys : List Scalar)

namespace Flaw

def message : Flaw → Text
  | notOfType v k => v.literal ++ " is not of type '".toList ++ k.name ++ ['\x27']
  | noMatch ps pattern => ps.quoted ++ " does not match ".toList ++ Text.quoted pattern
  | tooShort ps least =>
    ps.quoted ++ (if least = 1 then " should be non-empty" else " is too short").toList
  | missing name => Text.quoted name ++ " is a required property".toList
  | unknownKeys keys =>
    "Additional properties are not allowed (".toList ++
      Text.join [',', ' '] (keys.map Scalar.literal) ++
      (if keys.length = 1 then " was" else " were").toList ++ " unexpected)".toList

/-- The message has no number with too many digits. -/
def isWritable : Flaw → Bool
  | notOfType v _ => v.isWritable
  | unknownKeys keys => keys.all Scalar.isWritable
  | noMatch _ _ | tooShort _ _ | missing _ => true

end Flaw

/-- A flaw and the keys that lead to it. -/
structure Violation where
  path : List Text
  flaw : Flaw

/-- A violation goes before those deeper inside, and on its own depth before those whose path is
less. -/
def Violation.outranks (x y : Violation) : Prop :=
  x.path.length < y.path.length ∨ x.path.length = y.path.length ∧ y.path < x.path

instance (x y : Violation) : Decidable (x.outranks y) := inferInstanceAs (Decidable (_ ∨ _))

def Demand.flaw? (v : Value) : Demand → Option Flaw
  | type k => if k.admits v then none else some (.notOfType v k)
  | pattern p => v.points?.bind fun ps => if p.isFound ps then none else some (.noMatch ps p.text)
  | minLength n => v.points?.bind fun ps => if ps.length < n then some (.tooShort ps n) else none

namespace Schema

def names (s : Schema) : List Text := s.properties.map (·.1)

/-- What is wrong with a value, as far as these demands go. -/
def flaws (demands : List Demand) (v : Value) : List Flaw := demands.filterMap (Demand.flaw? v)

def memberViolations (s : Schema) (entries : List (Scalar × Value)) : List Violation :=
  s.properties.flatMap fun (name, demands) => (Value.member? name entries).toList.flatMap fun v =>
    (flaws demands v).map fun flaw => ⟨[name], flaw⟩

def missing (s : Schema) (entries : List (Scalar × Value)) : List Text :=
  s.required.filter fun name => (Value.member? name entries).isNone

def isUnknown (s : Schema) (key : Scalar) : Bool := s.names.all fun n => key != .text n.points

def unknown (s : Schema) (entries : List (Scalar × Value)) : List Scalar :=
  (entries.map (·.1)).filter s.isUnknown

def sortKeys (keys : List Scalar) : List Scalar :=
  keys.mergeSort fun a b => Text.leCodes a.sortCodes b.sortCodes

def violations (s : Schema) : Value → List Violation
  | .map entries =>
    s.memberViolations entries ++ (s.missing entries).map (fun name => ⟨[], .missing name⟩) ++
      if s.unknown entries = [] then [] else [⟨[], .unknownKeys (sortKeys (s.unknown entries))⟩]
  | v => [⟨[], .notOfType v .object⟩]

end Schema

end DiagCheck.Config
