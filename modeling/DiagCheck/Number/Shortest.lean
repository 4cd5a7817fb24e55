import DiagCheck.Number.Binary64
import DiagCheck.Text.Numeral

/-!
# Shortest decimals

A binary number is written with the fewest decimal digits that read back as that number, and
among those with the digits nearest to it. All comparisons are made between natural numbers.
-/

namespace DiagCheck.Binary64

structure Decimal where
  digits : Nat
  exponent : Int
  deriving DecidableEq, Repr

/-- The exponent of the highest power of ten in the positive fraction `n / d`. -/
def highestTen (n d : Nat) : Int :=
  if d ≤ n then (Nat.toDigits 10 (n / d)).length - 1
  else -((Nat.toDigits 10 ((n + d - 1) / n - 1)).length : Int)

/-- Whether `x` times the unit of a grid reads back as the number with mantissa `m`, which is
`n / d` of these units. Half-way points belong to the even mantissa; the gap below a power of
two is half as wide. -/
def readsBack (m : Nat) (atPower : Bool) (n d x : Nat) : Bool :=
  let low := (4 * m - if atPower then 1 else 2) * n
  let high := (4 * m + 2) * n
  let point := 4 * m * d * x
  if m % 2 = 0 then low ≤ point && point ≤ high else low < point && point < high

/-- The neighbour of `n / d` that reads back, the nearer one if both do. -/
def neighbour? (m : Nat) (atPower : Bool) (n d : Nat) : Option Nat :=
  match readsBack m atPower n d (n / d), readsBack m atPower n d (n / d + 1) with
  | true, true => some (roundHalfEven n d)
  | true, false => some (n / d)
  | false, true => some (n / d + 1)
  | false, false => none

def Decimal.reduce : Nat → Decimal → Decimal
  | 0, x => x
  | fuel + 1, x =>
    if x.digits % 10 = 0 then Decimal.reduce fuel ⟨x.digits / 10, x.exponent + 1⟩ else x

/-- The shortest decimal of the positive number `m * 2 ^ e`. Seventeen digits always do. -/
def shortest (m : Nat) (e : Int) : Decimal :=
  let n := m * power 2 e
  let d := power 2 (-e)
  let atPower := m = power 2 (precision - 1) && minExponent < e
  let found := (List.range 17).findSome? fun (places : Nat) =>
    let unit := highestTen n d - places
    (neighbour? m atPower (n * power 10 (-unit)) (d * power 10 unit)).map fun x =>
      (⟨x, unit⟩ : Decimal)
  (found.getD ⟨0, 0⟩).reduce 18

/-- Digits with a point behind the first `point` of them, and at least one digit on each side. -/
def positional (digits : Text) (point : Int) : Text :=
  if point ≤ 0 then "0.".toList ++ List.replicate (-point).toNat '0' ++ digits
  else if digits.length ≤ point.toNat then
    digits ++ List.replicate (point.toNat - digits.length) '0' ++ ".0".toList
  else digits.take point.toNat ++ ['.'] ++ digits.drop point.toNat

/-- One digit, the others behind a point, and an exponent with its sign and two digits. -/
def scientific (digits : Text) (exponent : Int) : Text :=
  let tail := digits.drop 1
  let magnitude := Numeral.ofNat exponent.natAbs
  digits.take 1 ++ (if tail = [] then [] else '.' :: tail) ++
    ['e', if exponent < 0 then '-' else '+'] ++
    (if magnitude.length < 2 then '0' :: magnitude else magnitude)

/-- Numbers from `0.0001` up to those of sixteen digits are written without an exponent. -/
def decimalText (x : Decimal) : Text :=
  let digits := Numeral.ofNat x.digits
  let point := x.exponent + digits.length
  if -4 < point ∧ point ≤ 16 then positional digits point else scientific digits (point - 1)

def text : Binary64 → Text
  | .nan => "nan".toList
  | .infinite negative => (if negative then ['-'] else []) ++ "inf".toList
  | .finite negative m e =>
    (if negative then ['-'] else []) ++
      if m = 0 then "0.0".toList else decimalText (shortest m e)

end DiagCheck.Binary64
