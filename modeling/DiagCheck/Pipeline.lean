import DiagCheck.Pipeline.Item
import DiagCheck.Text.Quoted
import DiagCheck.Text.Utf8

/-!
# Pipelines

A specification `module:callable` leads to the factory that makes a compiler stack. The module
is looked up by its dotted name, each package in front of it first; from the module a dotted
path of members leads to the factory. What is reached is called without arguments; only the call
of a factory makes a stack, but other calls may make something else.
-/

namespace DiagCheck.Pipeline

open Compiler (Failure)

inductive Source where
  | module (members : List (Text × Item))
  | package (members : List (Text × Item))
  /-- The module says why it cannot be loaded. -/
  | unavailable (reason : Text)
  /-- Loading the module fails in any other way. -/
  | failing (f : Failure)

abbrev Environment := List (Text × Source)

inductive Fault where
  | noSpecification (t : Text)
  | notLoaded (module reason : Text)
  | noFactory (t : Text)
  /-- A name that begins with a dot is relative to nothing. -/
  | relativeName
  | notCallable
  | failure (f : Failure)

def Fault.isConfiguration : Fault → Bool
  | noSpecification _ | notLoaded _ _ | noFactory _ => true
  | relativeName | notCallable => false
  | failure f => f.isConfiguration

def Fault.message : Fault → Text
  | noSpecification t =>
    "Pipeline must be given as 'module:callable', got ".toList ++ Text.quoted t
  | notLoaded module reason =>
    "Cannot import pipeline module ".toList ++ Text.quoted module ++ [':', ' '] ++ reason
  | noFactory t => "Pipeline factory ".toList ++ Text.quoted t ++ " not found".toList
  | relativeName => "The name of a pipeline module cannot be relative.".toList
  | notCallable => "The pipeline factory cannot be called.".toList
  | failure f => f.message

inductive Refusal where
  | reason (t : Text)
  | failure (f : Failure)

def noModule (name : Text) : Text := "No module named ".toList ++ Text.quoted name

/-- Loads the modules on a path of names, `parent` being the package loaded last. -/
def loadFrom (env : Environment) (parent : Text) : List Text → Except Refusal (List (Text × Item))
  | [] => .error (.reason (noModule parent))
  | step :: steps =>
    let name := if parent = [] then step else parent ++ ['.'] ++ step
    match env.lookup name with
    | none => .error (.reason (noModule name))
    | some (.unavailable reason) => .error (.reason reason)
    | some (.failing f) => .error (.failure f)
    | some (.module members) => match steps with
      | [] => .ok members
      | next :: _ => .error (.reason (noModule (name ++ ['.'] ++ next) ++ "; ".toList ++
          Text.quoted name ++ " is not a package".toList))
    | some (.package members) => match steps with
      | [] => .ok members
      | _ => loadFrom env name steps

def walk (item : Item) : List Text → Option Item
  | [] => some item
  | step :: steps => match item.member? step with
    | some next => walk next steps
    | none => none

inductive Product where
  /-- A stack, made by the factory with that label. -/
  | stack (label : Text)
  | other
  deriving DecidableEq

def Product.label? : Product → Option Text
  | stack label => some label
  | other => none

/-- How the call fails that depends on what the thing holds. -/
def Flaw.fault : Flaw → Fault
  | noEntry => named "KeyError" "'popitem(): dictionary is empty'".toList
  | noElement => named "IndexError" "pop from empty list".toList
  | large => named "OverflowError" "int too big to convert".toList
  | numberedBlank =>
    named "IndexError" "Replacement index 0 out of range for positional args tuple".toList
  | namedBlank name => named "KeyError" (Text.quoted name)
  | undecodable byte =>
    named "UnicodeDecodeError" (Utf8.Defect.message 0 ⟨0, 1, byte.toNat, some 0, .invalidStart⟩)
  | unhashable => .notCallable
where
  named (name : String) (t : Text) : Fault := .failure (Failure.ofName name.toList false (some t))

def call : Item → Except Fault Product
  | .factory label => .ok (.stack label)
  | .failing f => .error (.failure f)
  | .sort k => if k.madeOfNothing then .ok .other else .error .notCallable
  | .bound owner _ _ m => match m.call with
    | .complete => .ok .other
    | .ifSound => match owner.flaw? with
      | some flaw => .error flaw.fault
      | none => .ok .other
    | .incomplete => .error .notCallable
    | .asOwner => call owner
  | .module _ | .record _ | .thing _ _ | .unbound _ _ _ => .error .notCallable

/-- What is made by the call of what a specification leads to. -/
def resolve (env : Environment) (spec : Text) : Except Fault Product :=
  match Text.cut? ':' spec with
  | none => .error (.noSpecification spec)
  | some (module, path) =>
    if module = [] ∨ path = [] then .error (.noSpecification spec)
    else if module.head? = some '.' then .error .relativeName
    else match loadFrom env [] (Text.pieces '.' module) with
      | .error (.reason t) => .error (.notLoaded module t)
      | .error (.failure f) => .error (.failure f)
      | .ok members => match walk (.module members) (Text.pieces '.' path) with
        | none => .error (.noFactory spec)
        | some item => call item

/-- A path leads on from where its first part leads. -/
theorem walk_append (item : Item) (p q : List Text) :
    walk item (p ++ q) = (walk item p).bind fun i => walk i q := by
  induction p generalizing item with
  | nil => rfl
  | cons step steps ih =>
    simp only [List.cons_append, walk]
    cases item.member? step with
    | none => rfl
    | some next => exact ih next

/-- The modules that are at hand for scripted stacks, some of which are made to fail. -/
def scripted : Environment := [
  ("fakestack".toList, .module [
    ("Stack".toList, .factory "Stack".toList),
    ("make_stack".toList, .factory "make_stack".toList),
    ("ns".toList, .record [
      ("make_stack".toList, .factory "ns.make_stack".toList),
      ("inner".toList, .record [("make".toList, .factory "ns.inner.make".toList)])]),
    ("value".toList, .thing .integer),
    ("raising".toList,
      .failing (Failure.ofName "RuntimeError".toList false (some "factory failed".toList)))]),
  ("pkg".toList, .package [
    ("mod".toList, .module buildMembers), ("__path__".toList, .thing .list (some .noElement))]),
  ("pkg.mod".toList, .module buildMembers),
  ("badimport".toList, .unavailable "backend missing".toList),
  ("crashimport".toList,
    .failing (Failure.ofName "ValueError".toList false (some "bad module".toList)))]
where
  buildMembers : List (Text × Item) := [("build".toList, .factory "pkg.mod.build".toList)]

end DiagCheck.Pipeline
