import Mathlib.Data.List.DropRight
import Mathlib.Data.Nat.Digits.Defs
import DiagCheck.Proofs.Expectation.Span

/-! The grammar of annotation lines. A line that the grammar knows is read as what it says there,
and any other line is refused for the leftmost token that is not as it should be. -/
namespace DiagCheck

/-- The number that digits denote by their places, the last of which counts ones. -/
def Numeral.placeValue (digits : Text) : Nat :=
  Nat.ofDigits 10 (digits.map fun c => c.toNat - '0'.toNat).reverse

theorem Numeral.toNat_eq_placeValue (digits : Text) : toNat digits = placeValue digits := by
  induction digits with
  | nil => rfl
  | cons c t ih =>
    rw [placeValue, List.map_cons, Nat.ofDigits_reverse_cons, ← placeValue, ← ih, List.length_map,
      toNat, Nat.ofDigitChars_cons, Nat.ofDigitChars_eq_ofDigitChars_zero, toNat, Nat.mul_zero,
      Nat.zero_add, Nat.add_comm]

namespace Expectation

open Numeral

/-- What a span is made of. -/
inductive Token where
  | offset
  | mark (c : Char)

/-- The tokens behind the opening parenthesis of a span: `start-stop):`. -/
def spanTokens : List Token := [.offset, .mark '-', .offset, .mark ')', .mark ':']

/-- The token stands at the front of a text; the second text is what follows it. An offset takes
all the digits that there are. -/
inductive Token.Takes : Token → Text → Text → Prop where
  | offset : Readable digits → Stops rest → Takes .offset (digits ++ rest) rest
  | mark : Takes (.mark c) (c :: rest) rest

/-- The token does not stand at the front of a text. -/
inductive Token.Lacks : Token → Text → Defect → Prop where
  | offset : Stops t → Lacks .offset t .offsetExpected
  | short : (∀ c ∈ digits, c.isDigit = true) → Stops rest → maxDigits < digits.length →
      Lacks .offset (digits ++ rest) (.numeralTooLong digits.length)
  | mark : t.head? ≠ some c → Lacks (.mark c) t (.characterExpected c)

/-- The tokens stand at the front of a text up to one that does not. -/
inductive Breaks : List Token → Text → Defect → Prop where
  | here : token.Lacks t e → Breaks (token :: tokens) t e
  | later : token.Takes t rest → Breaks tokens rest e → Breaks (token :: tokens) t e

theorem breaks_cons_iff {token : Token} {tokens : List Token} {t : Text} {e : Defect} :
    Breaks (token :: tokens) t e ↔
      token.Lacks t e ∨ ∃ rest, token.Takes t rest ∧ Breaks tokens rest e := by
  constructor
  · intro h
    cases h with
    | here lacks => exact .inl lacks
    | later takes breaks => exact .inr ⟨_, takes, breaks⟩
  · rintro (lacks | ⟨rest, takes, breaks⟩)
    · exact .here lacks
    · exact .later takes breaks

theorem Breaks.exists_lacks {tokens : List Token} {t : Text} {e : Defect} (h : Breaks tokens t e) :
    ∃ token ∈ tokens, ∃ rest, token.Lacks rest e := by
  induction h with
  | here lacks => exact ⟨_, List.mem_cons_self .., _, lacks⟩
  | later _ _ ih =>
    obtain ⟨token, hm, rest, lacks⟩ := ih
    exact ⟨token, List.mem_cons_of_mem _ hm, rest, lacks⟩

/-! ## The readers of the tokens -/

/-- A reader of several steps is stopped by one of them. -/
theorem bind_eq_error_iff {ε α β : Type} {x : Except ε α} {f : α → Except ε β} {e : ε} :
    (x >>= f) = .error e ↔ x = .error e ∨ ∃ a, x = .ok a ∧ f a = .error e := by
  cases x with
  | error d => simp [bind, Except.bind]
  | ok a => simp [bind, Except.bind]

theorem takes_offset_iff {t rest : Text} :
    Token.offset.Takes t rest ↔ ∃ n, readOffset t = .ok (n, rest) := by
  constructor
  · rintro ⟨readable, stop⟩
    exact ⟨_, readOffset_eq_ok_iff.mpr ⟨_, readable, stop, rfl, rfl⟩⟩
  · rintro ⟨n, read⟩
    obtain ⟨digits, readable, stop, rfl, -⟩ := readOffset_eq_ok_iff.mp read
    exact .offset readable stop

theorem takes_mark_iff {c : Char} {t rest : Text} :
    (Token.mark c).Takes t rest ↔ readCharacter c t = .ok rest := by
  rw [readCharacter_eq_ok_iff]
  constructor
  · rintro ⟨⟩
    rfl
  · rintro rfl
    exact .mark

theorem readOffset_eq_error_iff {t : Text} {e : Defect} :
    readOffset t = .error e ↔ Token.offset.Lacks t e := by
  constructor
  · intro h
    have digit : ∀ c ∈ t.takeWhile Char.isDigit, c.isDigit = true :=
      List.all_eq_true.mp List.all_takeWhile
    have stop := stops_dropWhile t
    have whole := List.takeWhile_append_dropWhile (p := Char.isDigit) (l := t)
    simp only [readOffset] at h
    split at h
    · next none =>
      cases h
      rw [none, List.nil_append] at whole
      exact .offset (whole ▸ stop)
    · split at h
      · next long =>
        cases h
        have lacks := Token.Lacks.short digit stop long
        rwa [whole] at lacks
      · cases h
  · intro h
    cases h with
    | offset stop =>
      have none : ([] ++ t).takeWhile Char.isDigit = [] := (span_of_stops (by simp) stop).1
      rw [List.nil_append] at none
      simp [readOffset, none]
    | short digit stop long =>
      have taken := (span_of_stops digit stop).1
      have some := List.ne_nil_of_length_pos (Nat.zero_lt_of_lt long)
      simp only [readOffset, taken, if_neg some, if_pos long]

theorem readCharacter_eq_error_iff {c : Char} {t : Text} {e : Defect} :
    readCharacter c t = .error e ↔ (Token.mark c).Lacks t e := by
  constructor
  · intro h
    cases t with
    | nil =>
      cases h
      exact .mark nofun
    | cons d t =>
      simp only [readCharacter] at h
      split at h
      · cases h
      · next other =>
        cases h
        exact .mark (by simpa using other)
  · intro h
    cases h with
    | mark other =>
      cases t with
      | nil => rfl
      | cons d t => exact if_neg (by simpa using other)

theorem bind_offset_iff {α : Type} {f : Nat × Text → Except Defect α} {tokens : List Token}
    {t : Text} {e : Defect} (h : ∀ n rest, f (n, rest) = .error e ↔ Breaks tokens rest e) :
    (readOffset t >>= f) = .error e ↔ Breaks (.offset :: tokens) t e := by
  rw [bind_eq_error_iff, breaks_cons_iff, readOffset_eq_error_iff]
  apply or_congr_right
  constructor
  · rintro ⟨⟨n, rest⟩, read, stopped⟩
    exact ⟨rest, takes_offset_iff.mpr ⟨n, read⟩, (h n rest).mp stopped⟩
  · rintro ⟨rest, takes, breaks⟩
    obtain ⟨n, read⟩ := takes_offset_iff.mp takes
    exact ⟨(n, rest), read, (h n rest).mpr breaks⟩

theorem bind_mark_iff {α : Type} {c : Char} {f : Text → Except Defect α} {tokens : List Token}
    {t : Text} {e : Defect} (h : ∀ rest, f rest = .error e ↔ Breaks tokens rest e) :
    (readCharacter c t >>= f) = .error e ↔ Breaks (.mark c :: tokens) t e := by
  rw [bind_eq_error_iff, breaks_cons_iff, readCharacter_eq_error_iff]
  apply or_congr_right
  apply exists_congr
  intro rest
  rw [takes_mark_iff, h]

/-- A span is refused for the leftmost of its tokens that is not there. -/
theorem readSpan_eq_error_iff {t : Text} {e : Defect} :
    readSpan t = .error e ↔ Breaks spanTokens t e := by
  apply bind_offset_iff
  intro start t
  apply bind_mark_iff
  intro t
  apply bind_offset_iff
  intro stop t
  apply bind_mark_iff
  intro t
  apply bind_mark_iff
  intro t
  exact ⟨nofun, nofun⟩

/-- A span is refused for an offset that has no digits or too many, or for one of its three
characters. -/
theorem Breaks.defect {t : Text} {e : Defect} (h : Breaks spanTokens t e) :
    e = .offsetExpected ∨ (∃ c ∈ ['-', ')', ':'], e = .characterExpected c) ∨
      ∃ n, maxDigits < n ∧ e = .numeralTooLong n := by
  obtain ⟨token, hm, rest, lacks⟩ := h.exists_lacks
  cases lacks with
  | offset _ => exact .inl rfl
  | short _ _ long => exact .inr (.inr ⟨_, long, rfl⟩)
  | mark _ =>
    refine .inr (.inl ⟨_, ?_, rfl⟩)
    simpa [spanTokens] using hm

/-! ## Bodies and lines -/

/-- What stands behind the colon that ends the kind, and behind the blanks there. -/
def afterKind (t : Text) : Text := Text.skipBlank ((t.dropWhile (· != ':')).drop 1)

theorem readBody_of_span {t span : Text} (h : afterKind t = '(' :: span) :
    readBody t = (readSpan span).map fun (start, stop, message) =>
      { kind := t.takeWhile (· != ':'), message := Text.skipBlank message, start, stop } := by
  have rest : Text.skipBlank ((t.dropWhile (· != ':')).drop 1) = '(' :: span := h
  simp only [readBody, rest]
  cases readSpan span <;> rfl

theorem readBody_of_no_span {t : Text} (h : (afterKind t).head? ≠ some '(') :
    readBody t = .ok { kind := t.takeWhile (· != ':'), message := afterKind t } := by
  simp only [readBody]
  split
  · next span rest =>
    have shape : afterKind t = '(' :: span := rest
    rw [shape] at h
    exact absurd rfl h
  · rfl

/-- A body is read with a span, or without one if nothing is opened behind its kind. -/
theorem readBody_eq_ok_iff {t : Text} {d : Diagnostic} :
    readBody t = .ok d ↔
      ((afterKind t).head? ≠ some '(' ∧
        d = { kind := t.takeWhile (· != ':'), message := afterKind t }) ∨
      ∃ x y w, Readable x ∧ Readable y ∧
        afterKind t = '(' :: (x ++ '-' :: (y ++ ')' :: ':' :: w)) ∧
        d = ⟨t.takeWhile (· != ':'), Text.skipBlank w, toNat x, toNat y⟩ := by
  by_cases opened : (afterKind t).head? = some '('
  · obtain ⟨span, shape⟩ := List.head?_eq_some_iff.mp opened
    rw [readBody_of_span shape]
    constructor
    · intro h
      obtain ⟨⟨start, stop, w⟩, read, rfl⟩ := map_eq_ok h
      obtain ⟨x, y, hx, hy, rfl, rfl, rfl⟩ := readSpan_eq_ok_iff.mp read
      exact .inr ⟨x, y, w, hx, hy, shape, rfl⟩
    · rintro (⟨other, -⟩ | ⟨x, y, w, hx, hy, shape', rfl⟩)
      · exact absurd opened other
      · obtain rfl : span = _ := (List.cons.inj (shape.symm.trans shape')).2
        rw [readSpan_eq_ok_iff.mpr ⟨x, y, hx, hy, rfl, rfl, rfl⟩]
        rfl
  · rw [readBody_of_no_span opened]
    constructor
    · rintro ⟨⟩
      exact .inl ⟨opened, rfl⟩
    · rintro (⟨-, rfl⟩ | ⟨x, y, w, -, -, shape, -⟩)
      · rfl
      · rw [shape] at opened
        exact absurd rfl opened

theorem readBody_eq_error_iff {t : Text} {e : Defect} :
    readBody t = .error e ↔ ∃ span, afterKind t = '(' :: span ∧ Breaks spanTokens span e := by
  by_cases opened : (afterKind t).head? = some '('
  · obtain ⟨span, shape⟩ := List.head?_eq_some_iff.mp opened
    simp only [readBody_of_span shape, shape, List.cons.injEq, true_and, exists_eq_left',
      ← readSpan_eq_error_iff]
    cases readSpan span <;> simp [Except.map]
  · rw [readBody_of_no_span opened]
    constructor
    · exact nofun
    · rintro ⟨span, shape, -⟩
      rw [shape] at opened
      exact absurd rfl opened

theorem read_eq_error_iff {line : Text} {e : Defect} :
    read line = .error e ↔ body line ≠ [] ∧ readBody (body line) = .error e := by
  unfold read
  split
  · next empty => simp [empty]
  · next some => cases readBody (body line) <;> simp [Except.map, some]

theorem read_eq_some_iff {line : Text} {d : Diagnostic} :
    read line = .ok (some d) ↔ body line ≠ [] ∧ readBody (body line) = .ok d := by
  unfold read
  split
  · next h => simp [h]
  · next h => cases hr : readBody (body line) <;> simp [Except.map, h]

/-- Every line is read as the grammar says. A line with nothing in its body says nothing; any
other has a kind and behind it either a message, or a span and then a message. Where a span is
opened that does not go through, the line is refused for the leftmost token that is lacking. It
counts as malformed then, unless it has a number that is too long. -/
theorem read_grammar (line : Text) :
    let t := ((line.rdropWhile fun c => c == '\r' || c == '\n').dropWhile (· == '/')).dropWhile
      isBlank
    let kind := t.takeWhile (· != ':')
    let u := ((t.dropWhile (· != ':')).drop 1).dropWhile isBlank
    (read line = .ok none ↔ t = []) ∧
    (∀ d, read line = .ok (some d) ↔ t ≠ [] ∧
      ((u.head? ≠ some '(' ∧ d = ⟨kind, u, -1, -1⟩) ∨
        ∃ x y w, Readable x ∧ Readable y ∧ u = ['('] ++ x ++ ['-'] ++ y ++ [')', ':'] ++ w ∧
          d = ⟨kind, w.dropWhile isBlank, placeValue x, placeValue y⟩)) ∧
    (∀ e, read line = .error e ↔
      t ≠ [] ∧ ∃ span, u = '(' :: span ∧ Breaks spanTokens span e) ∧
    ∀ e, read line = .error e →
      (e = .offsetExpected ∧ e.isMalformed = true ∧
        e.message = "Invalid test expectation. Source location expected.".toList) ∨
      (∃ c ∈ ['-', ')', ':'], e = .characterExpected c ∧ e.isMalformed = true ∧ e.message =
        "Invalid test expectation. Expected character '".toList ++ [c] ++ "'.".toList) ∨
      ∃ n > 4300, e = .numeralTooLong n ∧ e.isMalformed = false := by
  intro t kind u
  have refused : ∀ e, read line = .error e ↔
      t ≠ [] ∧ ∃ span, u = '(' :: span ∧ Breaks spanTokens span e := by
    intro e
    rw [read_eq_error_iff, readBody_eq_error_iff]
    rfl
  refine ⟨read_eq_none_iff, ?_, refused, ?_⟩
  · intro d
    have shape : ∀ x y w : Text, ['('] ++ x ++ ['-'] ++ y ++ [')', ':'] ++ w =
        '(' :: (x ++ '-' :: (y ++ ')' :: ':' :: w)) := by simp
    simp only [read_eq_some_iff, readBody_eq_ok_iff, toNat_eq_placeValue, shape]
    rfl
  · intro e h
    obtain ⟨-, span, -, breaks⟩ := (refused e).mp h
    rcases breaks.defect with rfl | ⟨c, hc, rfl⟩ | ⟨n, long, rfl⟩
    · exact .inl ⟨rfl, rfl, rfl⟩
    · exact .inr (.inl ⟨c, hc, rfl, rfl, rfl⟩)
    · exact .inr (.inr ⟨n, long, rfl, rfl⟩)

end Expectation

end DiagCheck
