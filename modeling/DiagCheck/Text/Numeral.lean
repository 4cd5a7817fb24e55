import DiagCheck.Text.Basic

/-!
# Decimal numerals

Offsets are written and read in decimal. A numeral of more than 4300 digits is refused in both
directions, so that converting one cannot take unbounded time.
-/

namespace DiagCheck.Numeral

def maxDigits : Nat := 4300

def ofNat (n : Nat) : Text := Nat.toDigits 10 n

/-- A minus sign stands before the digits of a negative number. -/
def ofInt : Int → Text
  | .ofNat n => ofNat n
  | .negSucc n => '-' :: ofNat (n + 1)

/-- The number that a run of digits denotes; leading zeros do not count. -/
def toNat (digits : Text) : Nat := Nat.ofDigitChars 10 digits 0

def Fits (i : Int) : Prop := (ofNat i.natAbs).length ≤ maxDigits

/-- What is said of a numeral with too many digits when it is read. -/
def tooLongToRead (digits : Nat) : Text :=
  "Exceeds the limit (4300 digits) for integer string conversion: value has ".toList ++
    ofNat digits ++ " digits; use sys.set_int_max_str_digits() to increase the limit".toList

/-- What is said of a number with too many digits when it is written. -/
def tooLongToWrite : Text :=
  ("Exceeds the limit (4300 digits) for integer string conversion; " ++
    "use sys.set_int_max_str_digits() to increase the limit").toList

@[simp] theorem toNat_ofNat (n : Nat) : toNat (ofNat n) = n :=
  Nat.ofDigitChars_toDigits (by decide) (by decide)

theorem ofNat_ne_nil (n : Nat) : ofNat n ≠ [] := Nat.toDigits_ne_nil

theorem isDigit_of_mem_ofNat {n : Nat} {c : Char} (h : c ∈ ofNat n) : c.isDigit = true :=
  Nat.isDigit_of_mem_toDigits (by decide) (by decide) h

theorem ofInt_natCast (n : Nat) : ofInt n = ofNat n := rfl

/-- A number has at most `k` digits exactly when it is below the least one with more. -/
theorem length_ofNat_le_iff {n k : Nat} (h : 0 < k) : (ofNat n).length ≤ k ↔ n < Nat.pow 10 k :=
  Nat.length_toDigits_le_iff (by decide) h

/-- Decided without the digits. -/
instance (i : Int) : Decidable (Fits i) :=
  decidable_of_iff (i.natAbs < Nat.pow 10 maxDigits) (length_ofNat_le_iff (by decide)).symm

end DiagCheck.Numeral
