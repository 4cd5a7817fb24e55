import Mathlib.Data.List.DropRight
import DiagCheck.Text.Basic

/-! Lines, line ends and leading blanks. A line that a text is split into has no newline but
its own end, and text that is put together from closed lines is split into just these lines. -/
namespace DiagCheck.Text

theorem dropEnd_eq_self_iff {p : Char → Bool} {t : Text} :
    dropEnd p t = t ↔ ∀ c ∈ t.getLast?, p c = false := by
  have h : dropEnd p t = t ↔ ∀ hl : t ≠ [], ¬p (t.getLast hl) = true := List.rdropWhile_eq_self_iff
  rw [h]
  cases t with
  | nil => simp
  | cons c t => simp [List.getLast?_eq_some_getLast]

theorem not_of_mem_getLast?_dropEnd {p : Char → Bool} {t : Text} {c : Char}
    (h : c ∈ (dropEnd p t).getLast?) : p c = false := by
  have idempotent : dropEnd p (dropEnd p t) = dropEnd p t := List.rdropWhile_idempotent p t
  exact dropEnd_eq_self_iff.mp idempotent c h

@[simp] theorem dropLineEnd_append_newline (l : Text) :
    dropLineEnd (l ++ ['\n']) = dropLineEnd l :=
  dropEnd_append_of_all (by decide) l

@[simp] theorem dropLineEnd_dropLineEnd (l : Text) : dropLineEnd (dropLineEnd l) = dropLineEnd l :=
  List.rdropWhile_idempotent isLineEnd l

/-- What is cut off the front of a line leaves its last character. -/
theorem getLast?_of_suffix_dropLineEnd {l t : Text} {c : Char} (suffix : t <:+ dropLineEnd l)
    (last : c ∈ t.getLast?) : c ≠ '\r' ∧ c ≠ '\n' := by
  obtain ⟨s, h⟩ := suffix
  have same : (dropLineEnd l).getLast? = t.getLast? := by
    rw [← h, List.getLast?_append, last]
    rfl
  have h := not_of_mem_getLast?_dropEnd (p := isLineEnd) (same ▸ last)
  simpa [isLineEnd] using h

theorem dropLineEnd_eq_self {t : Text} (h : t.getLast? ≠ some '\r') (plain : '\n' ∉ t) :
    dropLineEnd t = t := by
  apply dropEnd_eq_self_iff.mpr
  intro c last
  have hr : c ≠ '\r' := by
    rintro rfl
    exact h last
  have hn : c ≠ '\n' := by
    rintro rfl
    exact plain (List.mem_of_getLast? last)
  simp [isLineEnd, hr, hn]

theorem lines_append_newline {l : Text} (h : '\n' ∉ l) (t : Text) :
    lines (l ++ '\n' :: t) = (l ++ ['\n']) :: lines t := by
  induction l with
  | nil => simp [lines]
  | cons c l ih =>
    have hc : c ≠ '\n' := by
      rintro rfl
      exact h (List.mem_cons_self ..)
    simp only [List.cons_append, lines, if_neg hc, ih fun m => h (List.mem_cons_of_mem c m)]

theorem lines_flatMap_append {ls : List Text} (h : ∀ l ∈ ls, '\n' ∉ l) (t : Text) :
    lines (ls.flatMap (· ++ ['\n']) ++ t) = ls.map (· ++ ['\n']) ++ lines t := by
  induction ls with
  | nil => rfl
  | cons l ls ih =>
    have hl := lines_append_newline (h l (List.mem_cons_self ..))
    have ih := ih fun m hm => h m (List.mem_cons_of_mem l hm)
    simp [hl, ← ih]

theorem lines_of_not_mem {b : Text} (h : '\n' ∉ b) : lines b = if b = [] then [] else [b] := by
  induction b with
  | nil => rfl
  | cons c b ih =>
    have hc : c ≠ '\n' := by
      rintro rfl
      exact h (List.mem_cons_self ..)
    rw [lines, if_neg hc, ih fun m => h (List.mem_cons_of_mem c m)]
    by_cases last : b = [] <;> simp [last]

theorem exists_closed_lines (t : Text) :
    ∃ (ls : List Text) (b : Text), (∀ l ∈ ls, '\n' ∉ l) ∧ '\n' ∉ b ∧
      t = ls.flatMap (· ++ ['\n']) ++ b := by
  induction t with
  | nil => exact ⟨[], [], by simp, by simp, rfl⟩
  | cons c t ih =>
    obtain ⟨ls, b, closed, plain, rfl⟩ := ih
    by_cases newline : c = '\n'
    · exact ⟨[] :: ls, b, by simpa using closed, plain, by simp [newline]⟩
    · have hc : '\n' ≠ c := Ne.symm newline
      cases ls with
      | nil => exact ⟨[], c :: b, by simp, by simp [hc, plain], rfl⟩
      | cons l ls =>
        obtain ⟨first, rest⟩ := List.forall_mem_cons.mp closed
        refine ⟨(c :: l) :: ls, b, ?_, plain, rfl⟩
        exact List.forall_mem_cons.mpr ⟨by simp [hc, first], rest⟩

/-- A line of a text, which may lack its newline only at the end of the text. -/
theorem exists_of_mem_lines {t l : Text} (h : l ∈ lines t) :
    ∃ b, '\n' ∉ b ∧ (l = b ∨ l = b ++ ['\n']) := by
  induction t generalizing l with
  | nil => cases h
  | cons c t ih =>
    simp only [lines] at h
    split at h
    · rcases List.mem_cons.mp h with rfl | h
      · exact ⟨[], by simp, .inr rfl⟩
      · exact ih h
    · next hc =>
      have hc : '\n' ≠ c := Ne.symm hc
      split at h
      · obtain rfl := List.mem_singleton.mp h
        exact ⟨[c], by simpa using hc, .inl rfl⟩
      · next m ms split =>
        rw [split] at ih
        rcases List.mem_cons.mp h with rfl | h
        · obtain ⟨b, plain, shape⟩ := ih (List.mem_cons_self ..)
          refine ⟨c :: b, by simp [hc, plain], ?_⟩
          rcases shape with rfl | rfl
          · exact .inl rfl
          · exact .inr rfl
        · exact ih (List.mem_cons_of_mem m h)

theorem newline_not_mem_dropLineEnd {t l : Text} (h : l ∈ lines t) : '\n' ∉ dropLineEnd l := by
  obtain ⟨b, plain, shape⟩ := exists_of_mem_lines h
  have cut : dropLineEnd l = dropLineEnd b := by
    rcases shape with rfl | rfl
    · rfl
    · exact dropLineEnd_append_newline b
  have kept : dropLineEnd b <+: b := dropEnd_prefix isLineEnd b
  rw [cut]
  exact fun m => plain (kept.subset m)

/-! ## Rows -/

/-- The lines without the newlines that end them. -/
def rows (t : Text) : List Text := (lines t).map fun l => l.filter (· != '\n')

/-- The text with a newline at its end, which is put there if it is missing. Empty text has no
line that could be closed. -/
def close (t : Text) : Text := if t = [] ∨ t.getLast? = some '\n' then t else t ++ ['\n']

theorem newline_not_mem_of_mem_rows {t r : Text} (h : r ∈ rows t) : '\n' ∉ r := by
  obtain ⟨l, _, rfl⟩ := List.mem_map.mp h
  simp

theorem lines_eq_nil {t : Text} (h : lines t = []) : t = [] := by
  simpa [h] using (flatten_lines t).symm

theorem close_cons {c : Char} {t : Text} (h : c = '\n' ∨ t ≠ []) :
    close (c :: t) = c :: close t := by
  cases t with
  | nil =>
    obtain rfl : c = '\n' := by simpa using h
    rfl
  | cons e t =>
    simp only [close, List.getLast?_cons_cons, reduceCtorEq, false_or]
    split <;> rfl

/-- The rows with a newline behind each are the text. -/
theorem flatMap_rows (t : Text) : (rows t).flatMap (· ++ ['\n']) = close t := by
  induction t with
  | nil => rfl
  | cons c t ih =>
    by_cases newline : c = '\n'
    · rw [close_cons (.inl newline), ← ih]
      simp [rows, lines, newline]
    · cases more : lines t with
      | nil =>
        obtain rfl := lines_eq_nil more
        simp [rows, lines, close, newline]
      | cons l ls =>
        have some : t ≠ [] := by
          rintro rfl
          cases more
        rw [close_cons (.inr some), ← ih]
        simp [rows, lines, newline, more]

/-- A line without carriage returns ends where its row ends. -/
theorem dropLineEnd_of_mem_lines {t l : Text} (h : l ∈ lines t) (plain : '\r' ∉ t) :
    dropLineEnd l = l.filter (· != '\n') := by
  obtain ⟨b, unbroken, shape⟩ := exists_of_mem_lines h
  have within : '\r' ∉ l := by
    intro m
    rw [← flatten_lines t] at plain
    exact plain (List.mem_flatten.mpr ⟨l, h, m⟩)
  have row : b.filter (· != '\n') = b := by
    rw [List.filter_eq_self]
    intro c hc
    simpa using ne_of_mem_of_not_mem hc unbroken
  have last : b.getLast? ≠ some '\r' := by
    intro last
    rcases shape with rfl | rfl
    · exact within (List.mem_of_getLast? last)
    · exact within (List.mem_append_left _ (List.mem_of_getLast? last))
  rcases shape with rfl | rfl
  · rw [dropLineEnd_eq_self last unbroken, row]
  · rw [dropLineEnd_append_newline, dropLineEnd_eq_self last unbroken]
    simp [row]

/-! ## Blanks -/

def startsBlank (t : Text) : Bool := t.head?.any isBlank

theorem startsBlank_skipBlank (t : Text) : (skipBlank t).startsBlank = false := by
  have stop := List.head?_dropWhile_not isBlank t
  unfold startsBlank skipBlank
  cases first : (t.dropWhile isBlank).head? with
  | none => rfl
  | some c =>
    rw [first] at stop
    simpa using stop

theorem startsBlank_of_prefix {s t : Text} (h : s <+: t) (unblank : t.startsBlank = false) :
    s.startsBlank = false := by
  obtain ⟨r, rfl⟩ := h
  cases s with
  | nil => rfl
  | cons c s => exact unblank

theorem skipBlank_eq_self {t : Text} (h : t.startsBlank = false) : skipBlank t = t := by
  cases t with
  | nil => rfl
  | cons c t =>
    have unblank : isBlank c = false := h
    simp [skipBlank, unblank]

theorem skipBlank_append {b : Text} (h : b.all isBlank = true) (t : Text) :
    skipBlank (b ++ t) = skipBlank t :=
  List.dropWhile_append_of_pos (List.all_eq_true.mp h)

theorem skipBlank_suffix (t : Text) : skipBlank t <:+ t := List.dropWhile_suffix isBlank

end DiagCheck.Text
