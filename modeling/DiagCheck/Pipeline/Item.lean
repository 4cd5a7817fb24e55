import DiagCheck.Compiler.Failure
import DiagCheck.Pipeline.Kind

/-!
# Members of things

What a path of members can reach, and the step from a thing to its member of a given name. A
member that works on something is bound to the thing that it is reached from. Kinds are things
too: from a kind its members are reached as they are, before what every kind has.
-/

namespace DiagCheck.Pipeline

open Compiler (Failure)

inductive Item where
  /-- Makes a stack; the label tells which factory it was. -/
  | factory (label : Text)
  | failing (f : Failure)
  | module (members : List (Text × Item))
  | record (members : List (Text × Item))
  /-- Some thing of a kind, with its flaw if it has one. -/
  | thing (k : Kind) (flaw : Option Flaw := none)
  | sort (k : Kind)
  /-- A member of `owner`, listed for the kind `home` by that name. -/
  | bound (owner : Item) (home : Kind) (name : Text) (m : Member)
  | unbound (home : Kind) (name : Text) (m : Member)

namespace Item

def kind : Item → Kind
  | factory _ | failing _ => .function
  | module _ => .module
  | record _ => .record
  | thing k _ => k
  | sort _ => .kind
  | bound _ _ _ m => m.boundKind
  | unbound _ _ m => m.unboundKind

def flaw? : Item → Option Flaw
  | thing _ flaw => flaw
  | _ => none

/-- What a module says of itself. -/
def description : List (Text × Item) := [
  ("__name__".toList, thing .text), ("__doc__".toList, thing .nothing),
  ("__package__".toList, thing .nothing), ("__loader__".toList, thing .nothing),
  ("__spec__".toList, thing .nothing)]

/-- The members that the thing has whatever its kind is. -/
def members : Item → List (Text × Item)
  | module ms => ms ++ description
  | record ms => ms
  | _ => []

/-- What a member is for, in words. -/
def memberDocument (home : Kind) (name : Text) (m : Member) : Item :=
  if m.isData then thing (if home.isExplained name then .text else .nothing)
  else if home.isUndocumented name then thing .nothing
  else thing .text (home.documentFlaw? name)

/-- What a kind is for, in words. A kind whose things tell it one by one has the property. -/
def sortDocument (k : Kind) : Item := match k with
  | .dictionary => thing .text (some .numberedBlank)
  | .view | .nothing => thing .nothing
  | .operation | .boundOperation | .method | .boundMethod | .property | .slot =>
    unbound k "__doc__".toList (.property .document)
  | _ => thing .text

/-- What a property or a slot of the thing holds. -/
def value? (item : Item) (v : Value) : Option Item := match v, item with
  | .thing k flaw, _ => some (thing k flaw)
  | .kind, _ => some (sort item.kind)
  | .owner, bound owner _ _ _ => some owner
  | .home, bound _ home _ _ | .home, unbound home _ _ => some (sort home)
  | .base, sort .object => some (thing .nothing)
  | .base, sort _ => some (sort .object)
  | .measure, sort .kind => some (thing .integer (some .large))
  | .measure, _ => some (thing .integer)
  | .document, bound _ home name m | .document, unbound home name m =>
    some (memberDocument home name m)
  | .document, sort k => some (sortDocument k)
  | .signature, bound _ home name _ | .signature, unbound home name _ =>
    some (thing (if home.isUnsigned name then .nothing else .text))
  | .signature, sort k => some (thing (if k.isSigned then .text else .nothing))
  | .closure, factory _ => some (thing .tuple (some .unhashable))
  | .closure, _ => some (thing .nothing)
  | _, _ => none

/-- The member as it is reached from the thing. -/
def take? (item : Item) (home : Kind) (name : Text) (m : Member) : Option Item := match m with
  | .operation _ | .method _ => some (bound item home name m)
  | .shared _ => some (bound (sort item.kind) home name m)
  | .loose _ => some (bound (thing .nothing) home name m)
  | .maker => some (bound (sort home) home name m)
  | .property v | .slot v => item.value? v
  | .constant k flaw => some (thing k flaw)

/-- The member as it is reached from the kind `k` itself. -/
def takeUnbound (k home : Kind) (name : Text) (m : Member) : Item := match m with
  | .operation _ | .method _ | .property _ | .slot _ => unbound home name m
  | .shared _ => bound (sort k) home name m
  | .loose _ => bound (thing .nothing) home name m
  | .maker => bound (sort home) home name m
  | .constant k flaw => thing k flaw

/-- The member that a kind itself has by that name. What tells of the kind comes first, then
what its things have, then what can be done with any kind. -/
def sortMember? (k : Kind) (name : Text) : Option Item :=
  match Kind.kind.member? name, k.member? name with
  | none, own => own.map fun (home, m) => takeUnbound k home name m
  | some (home, m), none => take? (sort k) home name m
  | some (home, m), some (home', m') =>
    if m.isData then take? (sort k) home name m else some (takeUnbound k home' name m')

def member? (item : Item) (name : Text) : Option Item :=
  match item.members.lookup name, item with
  | some found, _ => some found
  | none, sort k => sortMember? k name
  | none, _ => (item.kind.member? name).bind fun (home, m) => item.take? home name m

end Item

end DiagCheck.Pipeline
