/-!
# Binary numbers of 64 bits

Numbers with a point are held in the binary format of 64 bits. A decimal becomes the nearest
number of the format, and of two equally near the one with an even mantissa.
-/

namespace DiagCheck

inductive Binary64 where
  /-- The number `mantissa * 2 ^ exponent` with its sign, which zero has too. -/
  | finite (negative : Bool) (mantissa : Nat) (exponent : Int)
  | infinite (negative : Bool)
  | nan
  deriving DecidableEq, Repr

namespace Binary64

def minExponent : Int := -1074

def maxExponent : Int := 971

/-- A mantissa has at most this many bits. -/
def precision : Nat := 53

/-- A power of the base, and one if the exponent is negative. -/
def power (base : Nat) (e : Int) : Nat := Nat.pow base e.toNat

/-- The quotient rounded to the nearest natural number, a half to the even neighbour. -/
def roundHalfEven (n d : Nat) : Nat :=
  if 2 * (n % d) < d ∨ 2 * (n % d) = d ∧ n / d % 2 = 0 then n / d else n / d + 1

def scale (n d : Nat) (e : Int) : Nat × Nat := (n * power 2 (-e), d * power 2 e)

/-- The exponent of the highest power of two in the positive fraction `n / d`. -/
def highestPower (n d : Nat) : Int :=
  let e : Int := (Nat.log2 n : Int) - Nat.log2 d
  if (scale n d e).2 ≤ (scale n d e).1 then e else e - 1

def ofFraction (negative : Bool) (n d : Nat) : Binary64 :=
  if n = 0 then .finite negative 0 minExponent
  else
    let e := max minExponent (highestPower n d - (precision - 1))
    let m := roundHalfEven (scale n d e).1 (scale n d e).2
    let rounded := if m = power 2 precision then (power 2 (precision - 1), e + 1) else (m, e)
    if maxExponent < rounded.2 then .infinite negative
    else .finite negative rounded.1 rounded.2

/-- The exponent beyond which a power of ten is far outside the format. -/
def reach : Int := 400

/-- The number nearest to `n * 10 ^ e`. What is far outside the format is not computed: `n` is at
least `10 ^ (Nat.log2 n / 4)` and less than `10 ^ (Nat.log2 n / 3 + 1)`. Zero stays zero. -/
def ofDecimal (negative : Bool) (n : Nat) (e : Int) : Binary64 :=
  if n = 0 then .finite negative 0 minExponent
  else if reach < (Nat.log2 n / 4 : Nat) + e then .infinite negative
  else if (Nat.log2 n / 3 + 1 : Nat) + e < -reach then .finite negative 0 minExponent
  else ofFraction negative (n * power 10 e) (power 10 (-e))

def isInt (i : Int) : Binary64 → Bool
  | .finite negative m e =>
    let v : Int := if negative then -m else m
    v * power 2 e = i * power 2 (-e)
  | _ => false

/-- Whether two numbers are equal; the two zeros are. -/
def same : Binary64 → Binary64 → Bool
  | .finite s m e, .finite t n f => (m = 0 && n = 0) || (s = t && m = n && e = f)
  | x, y => x = y

end Binary64

end DiagCheck
