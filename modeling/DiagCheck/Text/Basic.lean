import DiagCheck.Text.Blank

/-!
# Text

Text is a list of characters, so a length or an offset counts code points. This module has the
cuts that the readers share: lines, line ends, blank margins and the first occurrence of a mark.
-/

namespace DiagCheck

abbrev Text := List Char

namespace Text

def dropEnd (p : Char → Bool) (t : Text) : Text := (t.reverse.dropWhile p).reverse

def isLineEnd (c : Char) : Bool := c == '\r' || c == '\n'

/-- Every carriage return and newline at the end is dropped, however many there are. -/
def dropLineEnd (t : Text) : Text := t.dropEnd isLineEnd

def skipBlank (t : Text) : Text := t.dropWhile isBlank

def trim (t : Text) : Text := (skipBlank t).dropEnd isBlank

def cut? (c : Char) : Text → Option (Text × Text)
  | [] => none
  | d :: t => if d = c then some ([], t) else (cut? c t).map fun (l, r) => (d :: l, r)

/-- The lines of a text, each with the newline that ends it. Only `\n` ends a line. -/
def lines : Text → List Text
  | [] => []
  | c :: t =>
    if c = '\n' then ['\n'] :: lines t
    else match lines t with
      | [] => [[c]]
      | l :: ls => (c :: l) :: ls

/-- The text in which every carriage return, with a newline behind it or not, is a newline. -/
def unifyBreaks : Text → Text
  | [] => []
  | '\r' :: '\n' :: t => '\n' :: unifyBreaks t
  | '\r' :: t => '\n' :: unifyBreaks t
  | c :: t => c :: unifyBreaks t

/-- The pieces between the occurrences of `c`; there is one more piece than occurrences. -/
def pieces (c : Char) : Text → List Text
  | [] => [[]]
  | d :: t =>
    if d = c then [] :: pieces c t
    else match pieces c t with
      | [] => [[d]]
      | p :: ps => (d :: p) :: ps

def join (separator : Text) : List Text → Text
  | [] => []
  | [t] => t
  | t :: ts => t ++ separator ++ join separator ts

def codes (t : Text) : List Nat := t.map Char.toNat

/-- The first codes that differ decide, and a list comes before what continues it. -/
def leCodes : List Nat → List Nat → Bool
  | [], _ => true
  | _ :: _, [] => false
  | a :: s, b :: t => a < b || (a == b && leCodes s t)

def le (s t : Text) : Bool := leCodes s.codes t.codes

/-- Ascending by code points, equal texts keeping their order. -/
def sort (ts : List Text) : List Text := ts.mergeSort le

theorem leCodes_total (s t : List Nat) : (leCodes s t || leCodes t s) = true := by
  induction s generalizing t with
  | nil => rfl
  | cons a s ih =>
    cases t with
    | nil => simp [leCodes]
    | cons b t =>
      by_cases h : a = b
      · subst h
        simpa [leCodes] using ih t
      · have hlt : a < b ∨ b < a := by omega
        rcases hlt with hlt | hlt <;> simp [leCodes, hlt]

theorem leCodes_trans (s t u : List Nat) (hs : leCodes s t = true) (ht : leCodes t u = true) :
    leCodes s u = true := by
  induction s generalizing t u with
  | nil => rfl
  | cons a s ih =>
    cases t with
    | nil => simp [leCodes] at hs
    | cons b t =>
      cases u with
      | nil => simp [leCodes] at ht
      | cons c u =>
        simp only [leCodes, Bool.or_eq_true, decide_eq_true_eq, Bool.and_eq_true,
          beq_iff_eq] at hs ht ⊢
        rcases hs with hs | ⟨rfl, hs⟩
        · rcases ht with ht | ⟨rfl, ht⟩
          · exact .inl (by omega)
          · exact .inl hs
        · rcases ht with ht | ⟨rfl, ht⟩
          · exact .inl ht
          · exact .inr ⟨rfl, ih t u hs ht⟩

theorem le_total (s t : Text) : (le s t || le t s) = true := leCodes_total ..

theorem le_trans (s t u : Text) (hs : le s t = true) (ht : le t u = true) : le s u = true :=
  leCodes_trans _ _ _ hs ht

/-- Sorting leaves each text in front of those that are not before it. -/
theorem pairwise_sort (ts : List Text) : (sort ts).Pairwise fun s t => le s t = true :=
  List.pairwise_mergeSort le_trans le_total ts

theorem dropEnd_append_of_all {p : Char → Bool} {l : Text} (h : l.all p = true) (t : Text) :
    dropEnd p (t ++ l) = dropEnd p t := by
  have h' : ∀ c ∈ l.reverse, p c = true := by
    intro c hc
    exact List.all_eq_true.mp h c (List.mem_reverse.mp hc)
  simp only [dropEnd, List.reverse_append, List.dropWhile_append_of_pos h']

theorem dropEnd_prefix (p : Char → Bool) (t : Text) : dropEnd p t <+: t := by
  have h := List.dropWhile_suffix (l := t.reverse) p
  simpa [dropEnd] using List.reverse_prefix.mpr h

/-- Cutting at `c` takes the text apart at an occurrence with no earlier one. -/
theorem cut?_eq_some_iff {c : Char} {t l r : Text} :
    cut? c t = some (l, r) ↔ t = l ++ c :: r ∧ c ∉ l := by
  induction t generalizing l with
  | nil => simp [cut?]
  | cons d t ih =>
    by_cases h : d = c
    · subst h
      cases l with
      | nil => simp [cut?, eq_comm]
      | cons e l =>
        simp only [cut?, if_pos, Option.some.injEq, Prod.mk.injEq, List.cons_append,
          List.cons.injEq, List.mem_cons, not_or]
        constructor
        · rintro ⟨h, -⟩
          exact absurd h (by simp)
        · rintro ⟨⟨rfl, -⟩, h, -⟩
          exact absurd rfl h
    · cases l with
      | nil => simp [cut?, h]
      | cons e l =>
        simp only [cut?, if_neg h, Option.map_eq_some_iff, Prod.mk.injEq, Prod.exists,
          List.cons.injEq, List.cons_append, List.mem_cons, not_or]
        constructor
        · rintro ⟨a, b, hab, ⟨rfl, rfl⟩, rfl⟩
          obtain ⟨rfl, hl⟩ := ih.mp hab
          exact ⟨⟨rfl, rfl⟩, fun e => h e.symm, hl⟩
        · rintro ⟨⟨rfl, rfl⟩, -, hl⟩
          exact ⟨l, r, ih.mpr ⟨rfl, hl⟩, ⟨rfl, rfl⟩, rfl⟩

theorem cut?_eq_none_iff {c : Char} {t : Text} : cut? c t = none ↔ c ∉ t := by
  induction t with
  | nil => simp [cut?]
  | cons d t ih =>
    by_cases h : d = c
    · simp [cut?, h]
    · simp [cut?, h, ih, Ne.symm h]

@[simp] theorem flatten_lines (t : Text) : (lines t).flatten = t := by
  induction t with
  | nil => rfl
  | cons c t ih =>
    simp only [lines]
    split
    · next h => simp [h, ih]
    · split
      · next h =>
        rw [h] at ih
        simp [← ih]
      · next l ls h =>
        rw [h] at ih
        simp [← ih]

end Text

end DiagCheck
