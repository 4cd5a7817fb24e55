import DiagCheck.Text.Quoted

/-!
# Code points

A text is made of characters. The escapes of a configuration file name any code point, also a
half of a surrogate pair, which is no character. Main statements: a text is kept by its code
points, and quoting them quotes the text.
-/

namespace DiagCheck

inductive Point where
  | char (c : Char)
  | half (code : Nat)
  deriving DecidableEq, Repr

abbrev Points := List Point

def Text.points (t : Text) : Points := t.map .char

namespace Point

def code : Point → Nat
  | char c => c.toNat
  | half n => n

def ofCode? (n : Nat) : Option Point :=
  if n.isValidChar then some (char (Char.ofNat n))
  else if n < 0x110000 then some (half n)
  else none

def escaped (mark : Char) : Point → Text
  | char c => Text.escaped mark c
  | half n => Text.codeEscape n

end Point

namespace Points

def codes (ps : Points) : List Nat := ps.map Point.code

def replacement : Char := '\uFFFD'

def pair (high low : Nat) : Char :=
  Char.ofNat (0x10000 + (high - 0xD800) * 0x400 + (low - 0xDC00))

/-- The text in which a high half and a low half behind it make one character. -/
def toText : Points → Text
  | [] => []
  | .char c :: ps => c :: toText ps
  | .half m :: .half n :: ps =>
    if m < 0xDC00 ∧ 0xDC00 ≤ n then pair m n :: toText ps
    else replacement :: toText (.half n :: ps)
  | .half _ :: ps => replacement :: toText ps

/-- The code points between quotation marks. A half is always escaped. -/
def quoted (ps : Points) : Text :=
  let mark := Text.quotationMark (ps.toText)
  [mark] ++ ps.flatMap (Point.escaped mark) ++ [mark]

@[simp] theorem toText_points (t : Text) : toText t.points = t := by
  induction t with
  | nil => rfl
  | cons c t ih => simpa [Text.points, toText] using ih

@[simp] theorem quoted_points (t : Text) : quoted t.points = Text.quoted t := by
  simp only [quoted, toText_points, Text.quoted]
  rw [Text.points, List.flatMap_map]
  rfl

end Points

end DiagCheck
