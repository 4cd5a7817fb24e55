import DiagCheck.Number.Binary64

/-!
# Sums and products

The sum and the product of two numbers are the numbers nearest to the exact ones, so the order
in which numbers are added counts.
-/

namespace DiagCheck.Binary64

def ofNat (n : Nat) : Binary64 := ofFraction false n 1

def ofDyadic (negative : Bool) (m : Nat) (e : Int) : Binary64 :=
  ofFraction negative (m * power 2 e) (power 2 (-e))

def negate : Binary64 → Binary64
  | .finite s m e => .finite (!s) m e
  | .infinite s => .infinite (!s)
  | .nan => .nan

def isInfinite : Binary64 → Bool
  | .infinite _ => true
  | _ => false

def signed (negative : Bool) (n : Nat) : Int := if negative then -(n : Int) else n

/-- A sum that is zero is negative only if both numbers are. -/
def plus : Binary64 → Binary64 → Binary64
  | .finite s m e, .finite t n f =>
    let low := min e f
    let sum := signed s (m * power 2 (e - low)) + signed t (n * power 2 (f - low))
    ofDyadic (sum < 0 || (sum = 0 && s && t)) sum.natAbs low
  | .infinite s, .infinite t => if s = t then .infinite s else .nan
  | .infinite s, .finite _ _ _ => .infinite s
  | .finite _ _ _, .infinite t => .infinite t
  | .nan, _ => .nan
  | _, .nan => .nan

/-- Zero times an infinite number is no number. -/
def times : Binary64 → Binary64 → Binary64
  | .finite s m e, .finite t n f => ofDyadic (s != t) (m * n) (e + f)
  | .infinite s, .infinite t => .infinite (s != t)
  | .infinite s, .finite t n _ => if n = 0 then .nan else .infinite (s != t)
  | .finite s m _, .infinite t => if m = 0 then .nan else .infinite (s != t)
  | .nan, _ => .nan
  | _, .nan => .nan

end DiagCheck.Binary64
