import DiagCheck.Number.Shortest
import DiagCheck.Text.Point

/-!
# Configuration values

A configuration is data of a few kinds: scalars, lists, and maps whose keys are scalars. A map
keeps the order of its keys. The literal of a value is how messages show it. A loader may also make
values that no configuration uses, such as dates; of these only what messages show is kept.
-/

namespace DiagCheck.Config

inductive Scalar where
  | null
  | bool (b : Bool)
  | int (i : Int)
  | float (x : Binary64)
  | text (ps : Points)
  /-- Anything else. It has a text, and a literal unless a number in it has too many digits. -/
  | other (literal? : Option Text) (text : Text)
  deriving DecidableEq, Repr

inductive Value where
  | scalar (s : Scalar)
  | list (vs : List Value)
  | map (entries : List (Scalar × Value))
  deriving Repr

namespace Scalar

/-- The number that a key stands for, truth values counting as one and zero. -/
def asInt? : Scalar → Option Int
  | bool b => some b.toNat
  | int i => some i
  | _ => none

/-- Whether two keys are one key. Keys of different kinds are if they are equal numbers. -/
def sameKey (a b : Scalar) : Bool :=
  match a, b with
  | float x, float y => x.same y
  | float x, s | s, float x => s.asInt?.any x.isInt
  | a, b => match a.asInt?, b.asInt? with
    | some i, some j => i = j
    | _, _ => a = b

def literal : Scalar → Text
  | null => "None".toList
  | bool b => if b then "True".toList else "False".toList
  | int i => Numeral.ofInt i
  | float x => x.text
  | text ps => ps.quoted
  | other literal? _ => literal?.getD []

/-- The literal has no number with too many digits. -/
def isWritable : Scalar → Bool
  | int i => decide (Numeral.Fits i)
  | other literal? _ => literal?.isSome
  | null | bool _ | float _ | text _ => true

/-- What keys are sorted by: their code points as texts, which for most are their literals. -/
def sortCodes : Scalar → List Nat
  | text ps => ps.codes
  | other _ t => t.codes
  | s => s.literal.codes

end Scalar

namespace Value

/-- Puts a key behind the others, or gives the key that is there another value. -/
def put (key : Scalar) (value : Value) : List (Scalar × Value) → List (Scalar × Value)
  | [] => [(key, value)]
  | (k, v) :: entries =>
    if k.sameKey key then (k, value) :: entries else (k, v) :: put key value entries

mutual

def literal : Value → Text
  | scalar s => s.literal
  | list vs => ['['] ++ Text.join [',', ' '] (literals vs) ++ [']']
  | map entries => ['\x7b'] ++ Text.join [',', ' '] (entryLiterals entries) ++ ['\x7d']

def literals : List Value → List Text
  | [] => []
  | v :: vs => literal v :: literals vs

def entryLiterals : List (Scalar × Value) → List Text
  | [] => []
  | (k, v) :: entries => (k.literal ++ [':', ' '] ++ literal v) :: entryLiterals entries

end

mutual

/-- The literal has no number with too many digits. -/
def isWritable : Value → Bool
  | scalar s => s.isWritable
  | list vs => areWritable vs
  | map entries => entriesAreWritable entries

def areWritable : List Value → Bool
  | [] => true
  | v :: vs => isWritable v && areWritable vs

def entriesAreWritable : List (Scalar × Value) → Bool
  | [] => true
  | (k, v) :: entries => k.isWritable && isWritable v && entriesAreWritable entries

end

def member? (name : Text) (entries : List (Scalar × Value)) : Option Value :=
  entries.lookup (.text name.points)

def points? : Value → Option Points
  | scalar (.text ps) => some ps
  | _ => none

def text? (v : Value) : Option Text := v.points?.map Points.toText

def bool? : Value → Option Bool
  | scalar (.bool b) => some b
  | _ => none

end Value

end DiagCheck.Config
