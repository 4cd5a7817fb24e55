import DiagCheck.Expectation

/-! Spans of annotation lines. Reading a span succeeds on two numerals with a dash between them
and `):` behind, and on nothing else; the offsets read are short enough to be written again. -/
namespace DiagCheck

/-- A run of digits that may be read as a number. -/
structure Numeral.Readable (digits : Text) : Prop where
  nonempty : digits ≠ []
  digit : ∀ c ∈ digits, c.isDigit = true
  short : digits.length ≤ maxDigits

namespace Numeral

theorem readable_ofNat {n : Nat} (h : Fits n) : Readable (ofNat n) :=
  ⟨ofNat_ne_nil n, fun _ => isDigit_of_mem_ofNat, h⟩

theorem toNat_lt {digits : Text} (h : ∀ c ∈ digits, c.isDigit = true) :
    toNat digits < Nat.pow 10 digits.length := by
  induction digits with
  | nil => decide
  | cons c t ih =>
    have ih := ih fun d hd => h d (List.mem_cons_of_mem c hd)
    have bound := (Char.isDigit_iff_toNat.mp (h c (List.mem_cons_self ..))).2
    have digit : c.toNat - '0'.toNat ≤ 9 := Nat.sub_le_iff_le_add.mpr bound
    have scaled := Nat.mul_le_mul_left (Nat.pow 10 t.length) digit
    have next : Nat.pow 10 (t.length + 1) = Nat.pow 10 t.length * 10 := rfl
    simp only [toNat] at ih
    rw [toNat, Nat.ofDigitChars_cons, Nat.ofDigitChars_eq_ofDigitChars_zero, List.length_cons,
      next]
    simp only [Nat.mul_zero, Nat.zero_add, ← Nat.pow_eq]
    omega

/-- Leading zeros are lost, so a number may be shorter than the numeral it was read from. -/
theorem fits_toNat {digits : Text} (h : Readable digits) : Fits (toNat digits) := by
  have some : 0 < digits.length := List.length_pos_iff.mpr h.nonempty
  have written : (ofNat (toNat digits)).length ≤ digits.length :=
    (length_ofNat_le_iff some).mpr (toNat_lt h.digit)
  exact Nat.le_trans written h.short

end Numeral

namespace Expectation

open Numeral

/-- The text does not go on with a digit. -/
def Stops (t : Text) : Prop := ∀ c ∈ t.head?, c.isDigit = false

theorem stops_dropWhile (t : Text) : Stops (t.dropWhile Char.isDigit) := by
  intro c hc
  have stop := List.head?_dropWhile_not Char.isDigit t
  rw [hc] at stop
  simpa using stop

/-- All the digits at the front of a text, where something else follows them. -/
theorem span_of_stops {digits rest : Text} (digit : ∀ c ∈ digits, c.isDigit = true)
    (stop : Stops rest) :
    (digits ++ rest).takeWhile Char.isDigit = digits ∧
      (digits ++ rest).dropWhile Char.isDigit = rest := by
  rw [List.takeWhile_append_of_pos digit, List.dropWhile_append_of_pos digit]
  cases rest with
  | nil => simp
  | cons c t => simp [stop c rfl]

theorem readOffset_eq_ok_iff {t rest : Text} {n : Nat} :
    readOffset t = .ok (n, rest) ↔
      ∃ digits, Readable digits ∧ Stops rest ∧ t = digits ++ rest ∧ n = toNat digits := by
  constructor
  · intro h
    simp only [readOffset] at h
    split at h
    · cases h
    · next nonempty =>
      split at h
      · cases h
      · next short =>
        cases h
        refine ⟨_, ⟨nonempty, ?_, Nat.not_lt.mp short⟩, stops_dropWhile t,
          List.takeWhile_append_dropWhile.symm, rfl⟩
        exact List.all_eq_true.mp List.all_takeWhile
  · rintro ⟨digits, h, stop, rfl, rfl⟩
    obtain ⟨taken, left⟩ := span_of_stops h.digit stop
    simp only [readOffset, taken, left, if_neg h.nonempty, if_neg (Nat.not_lt.mpr h.short)]

theorem readCharacter_eq_ok_iff {c : Char} {t rest : Text} :
    readCharacter c t = .ok rest ↔ t = c :: rest := by
  cases t with
  | nil => simp [readCharacter]
  | cons d t =>
    by_cases h : d = c
    · simp [readCharacter, h]
    · simp [readCharacter, h]

/-- A step of a reader that got through. -/
theorem bind_eq_ok {ε α β : Type} {x : Except ε α} {f : α → Except ε β} {b : β}
    (h : (x >>= f) = .ok b) : ∃ a, x = .ok a ∧ f a = .ok b := by
  cases x with
  | error e => cases h
  | ok a => exact ⟨a, rfl, h⟩

theorem map_eq_ok {ε α β : Type} {x : Except ε α} {f : α → β} {b : β} (h : x.map f = .ok b) :
    ∃ a, x = .ok a ∧ f a = b := by
  cases x with
  | error e => cases h
  | ok a => exact ⟨a, rfl, Except.ok.inj h⟩

theorem readSpan_eq_ok_iff {t message : Text} {start stop : Nat} :
    readSpan t = .ok (start, stop, message) ↔
      ∃ x y, Readable x ∧ Readable y ∧ t = x ++ '-' :: (y ++ ')' :: ':' :: message) ∧
        start = toNat x ∧ stop = toNat y := by
  constructor
  · intro h
    obtain ⟨⟨a, t₁⟩, first, h⟩ := bind_eq_ok h
    obtain ⟨t₂, dash, h⟩ := bind_eq_ok h
    obtain ⟨⟨b, t₃⟩, second, h⟩ := bind_eq_ok h
    obtain ⟨t₄, close, h⟩ := bind_eq_ok h
    obtain ⟨t₅, colon, h⟩ := bind_eq_ok h
    cases h
    obtain ⟨x, hx, _, rfl, rfl⟩ := readOffset_eq_ok_iff.mp first
    obtain rfl := readCharacter_eq_ok_iff.mp dash
    obtain ⟨y, hy, _, rfl, rfl⟩ := readOffset_eq_ok_iff.mp second
    obtain rfl := readCharacter_eq_ok_iff.mp close
    obtain rfl := readCharacter_eq_ok_iff.mp colon
    exact ⟨x, y, hx, hy, rfl, rfl, rfl⟩
  · rintro ⟨x, y, hx, hy, rfl, rfl, rfl⟩
    have first : readOffset (x ++ '-' :: (y ++ ')' :: ':' :: message)) = .ok (toNat x, _) :=
      readOffset_eq_ok_iff.mpr ⟨x, hx, by simp [Stops], rfl, rfl⟩
    have second : readOffset (y ++ ')' :: ':' :: message) = .ok (toNat y, _) :=
      readOffset_eq_ok_iff.mpr ⟨y, hy, by simp [Stops], rfl, rfl⟩
    simp only [readSpan, first, second, bind, Except.bind, readCharacter, if_pos, pure,
      Except.pure]

end Expectation

end DiagCheck
