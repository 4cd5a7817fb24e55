import DiagCheck.Config.Value
import DiagCheck.Number.Arithmetic
import DiagCheck.Yaml.Cursor

/-!
# What plain scalars denote

A plain scalar may be a word for nothing or for a truth value, or a number in one of several
forms; any other denotes itself. Digits may be grouped by underscores, and a colon stands
between places of base sixty.
-/

namespace DiagCheck.Yaml.Plain

open Config (Scalar)

def nullWords : List String := ["", "~", "null", "Null", "NULL"]

def trueWords : List String :=
  ["yes", "Yes", "YES", "true", "True", "TRUE", "on", "On", "ON"]

def falseWords : List String :=
  ["no", "No", "NO", "false", "False", "FALSE", "off", "Off", "OFF"]

def infinityWords : List String := [".inf", ".Inf", ".INF"]

def nanWords : List String := [".nan", ".NaN", ".NAN"]

def isOneOf (words : List String) (t : Text) : Bool := words.any fun w => w.toList == t

/-- Whether a minus sign stands in front, and what is behind the sign. -/
def cutSign : Text → Bool × Text
  | '-' :: t => (true, t)
  | '+' :: t => (false, t)
  | t => (false, t)

def ungroup (t : Text) : Text := t.filter (· != '_')

/-- Digits and underscores, the first being a digit. -/
def isRun (t : Text) : Bool :=
  t.head?.any Char.isDigit && t.all fun c => c.isDigit || c == '_'

/-- A place of base sixty behind the first one. -/
def isPlace : Text → Bool
  | [c] => c.isDigit
  | [c, d] => '0' ≤ c && c ≤ '5' && d.isDigit
  | _ => false

/-- The places of a number, without underscores. -/
def places? (t : Text) : Option (List Text) :=
  match Text.pieces ':' t with
  | p :: ps => if isRun p && ps.all isPlace then some (ungroup p :: ps) else none
  | [] => none

/-- The number whose places are given from the highest on. -/
def ofPlaces (ps : List Text) : Nat := ps.foldl (fun n p => n * 60 + Numeral.toNat p) 0

def checkLength (p : Text) : Except Fault Unit :=
  if p.length ≤ Numeral.maxDigits then .ok () else .error (.numeralTooLong p.length)

def digitValue (c : Char) : Nat :=
  if c.isDigit then c.toNat - '0'.toNat else c.toLower.toNat - 'a'.toNat + 10

/-- The number that digits of a base denote, if all of them are below the base. -/
def inBase? (base : Nat) (t : Text) : Option Nat :=
  let digits := ungroup t
  if t != [] && digits.all fun c => c.isAlphanum && digitValue c < base then
    some (digits.foldl (fun n c => n * base + digitValue c) 0)
  else none

/-- The number in digits behind a mark of the base. There must be one. -/
def marked? (base : Nat) (t : Text) : Option (Except Fault Nat) :=
  (inBase? base t).map fun n => if ungroup t = [] then .error (.noDigits base) else .ok n

/-- A natural number in one of its forms. A zero in front of digits means base eight. -/
def natural? (t : Text) : Option (Except Fault Nat) :=
  match t with
  | ['0'] => some (.ok 0)
  | '0' :: 'b' :: t => marked? 2 t
  | '0' :: 'x' :: t => marked? 16 t
  | '0' :: t => (inBase? 8 t).map .ok
  | t => (places? t).map fun ps => do
    ps.forM checkLength
    return ofPlaces ps

def integer? (t : Text) : Option (Except Fault Int) :=
  let (negative, t) := cutSign t
  (natural? t).map fun r => r.map fun n => if negative then -(n : Int) else n

/-- An exponent with its mark and sign; nothing is the exponent zero. -/
def exponent? : Text → Option Int
  | [] => some 0
  | e :: s :: t =>
    if (e = 'e' ∨ e = 'E') ∧ (s = '+' ∨ s = '-') ∧ t ≠ [] ∧ t.all Char.isDigit then
      some (if s = '-' then -(Numeral.toNat t : Int) else Numeral.toNat t)
    else none
  | _ => none

def isFractionCharacter (c : Char) : Bool := c.isDigit || c == '_'

/-- `n` with the digits of a fraction behind it and an exponent. -/
def withFraction (negative : Bool) (n : Nat) (digits : Text) (exponent : Int) : Binary64 :=
  .ofDecimal negative (n * Nat.pow 10 digits.length + Numeral.toNat digits)
    (exponent - digits.length)

/-- Adds places of base sixty to `sum`, from one that counts `weight` upward. Each step gives a
number of the format. -/
def addPlaces (sum : Binary64) (weight : Nat) : List Binary64 → Except Fault Binary64
  | [] => .ok sum
  | p :: ps =>
    if (Binary64.ofNat weight).isInfinite then .error .weightTooLarge
    else addPlaces (sum.plus (p.times (.ofNat weight))) (weight * 60) ps

/-- A number with a point. In front of the point there may be nothing, but then no sign either
and a digit behind it; base sixty allows no exponent. -/
def pointed? (t : Text) : Option (Except Fault Binary64) := do
  let (negative, u) := cutSign t
  let (whole, rest) ← Text.cut? '.' u
  let fraction := rest.takeWhile isFractionCharacter
  let exponent ← exponent? (rest.dropWhile isFractionCharacter)
  let places ←
    if whole = [] then if u = t ∧ isRun fraction then some [] else none else places? whole
  let digits := ungroup fraction
  match places.reverse.map Numeral.toNat with
  | [] => some (.ok (withFraction negative 0 digits exponent))
  | [n] => some (.ok (withFraction negative n digits exponent))
  | n :: ns =>
    if rest.dropWhile isFractionCharacter ≠ [] then none
    else
      let sum := withFraction false n digits 0
      let higher := addPlaces sum 60 (ns.map .ofNat)
      some (higher.map fun x => if negative then x.negate else x)

def float? (t : Text) : Option (Except Fault Binary64) :=
  let (negative, u) := cutSign t
  if isOneOf infinityWords u then some (.ok (.infinite negative))
  else if isOneOf nanWords t then some (.ok .nan)
  else pointed? t

/-- What a plain scalar denotes. Two marks of maps denote nothing. -/
def denote (t : Text) : Except Fault Scalar :=
  if isOneOf nullWords t then .ok .null
  else if isOneOf trueWords t then .ok (.bool true)
  else if isOneOf falseWords t then .ok (.bool false)
  else if isOneOf ["=", "<<"] t then .error .malformed
  else match float? t, integer? t with
    | some r, _ => r.map .float
    | none, some r => r.map .int
    | none, none => .ok (.text t.points)

end DiagCheck.Yaml.Plain
