import DiagCheck.Render.Overlay

/-! Highlights character by character. Where all diagnostics lie inside the source, a character has
the highest level among those that cover it, in whatever order they come. -/
namespace DiagCheck.Highlight

/-- The highest level among the diagnostics that cover the character. -/
def levelAt (ds : List Diagnostic) (i : Nat) : Level :=
  if ∃ d ∈ ds, d.kind ≠ "Warning".toList ∧ Covers d i then .error
  else if ∃ d ∈ ds, d.kind = "Warning".toList ∧ Covers d i then .warning
  else .none

variable {length : Nat} {d : Diagnostic} {ds : List Diagnostic} {painted : List Level}
  {e : Render.Fault}

/-! ## Levels -/

@[simp] theorem join_none (l : Level) : l.join .none = l := by cases l <;> rfl

@[simp] theorem none_join (l : Level) : Level.none.join l = l := by cases l <;> rfl

theorem levelAt_eq_error_iff {i : Nat} :
    levelAt ds i = .error ↔ ∃ d ∈ ds, d.kind ≠ "Warning".toList ∧ Covers d i := by
  unfold levelAt
  split
  · next found => simp only [found]
  · next missing =>
    simp only [missing, iff_false]
    split <;> decide

theorem levelAt_eq_warning_iff {i : Nat} :
    levelAt ds i = .warning ↔ (∃ d ∈ ds, d.kind = "Warning".toList ∧ Covers d i) ∧
      ¬∃ d ∈ ds, d.kind ≠ "Warning".toList ∧ Covers d i := by
  unfold levelAt
  split
  · next found =>
    simp only [found, not_true_eq_false, and_false, iff_false]
    decide
  · next missing =>
    simp only [missing, not_false_eq_true, and_true]
    split
    · next found => simp only [found]
    · next none =>
      simp only [none, iff_false]
      decide

theorem levelAt_cons (d : Diagnostic) (ds : List Diagnostic) (i : Nat) :
    levelAt (d :: ds) i = (if Covers d i then d.level else .none).join (levelAt ds i) := by
  simp only [levelAt, List.mem_cons, exists_eq_or_imp, Diagnostic.level, Level.ofKind]
  -- The word is compared as a whole.
  generalize "Warning".toList = word
  by_cases covers : Covers d i
  · by_cases warning : d.kind = word
    · simp only [covers, warning, ne_eq, not_true_eq_false, and_true, false_or, true_or, if_true]
      split
      · rfl
      · split <;> rfl
    · simp only [covers, warning, ne_eq, not_false_eq_true, and_true, true_or, if_true, if_false]
      split
      · rfl
      · split <;> rfl
  · simp [covers]

/-- What is painted first and last makes no difference but by its level. -/
theorem getElem?_paintAll {levels : List Level} (h : paintAll length ds levels = .ok painted)
    (i : Nat) : painted[i]? = levels[i]?.map (·.join (levelAt ds i)) := by
  induction ds generalizing levels with
  | nil =>
    cases h
    simp [levelAt]
  | cons d ds ih =>
    simp only [paintAll] at h
    split at h
    · cases h
    · rw [ih h, getElem?_paint, Option.map_map, levelAt_cons]
      congr 1
      funext l
      by_cases covers : Covers d i
      · simp [covers, Level.join_assoc]
      · simp [covers]

/-- Colour is refused if a diagnostic lies outside, and the first one that does is blamed. -/
theorem levels_eq (length : Nat) (ds : List Diagnostic) :
    (∃ painted, levels length ds = .ok painted ∧ ∀ d ∈ ds, ¬Outside length d) ∨
      ∃ d, levels length ds = .error (fault length d) ∧
        ds.find? (fun d => Outside length d) = some d := by
  unfold levels
  generalize List.replicate length Level.none = marks
  induction ds generalizing marks with
  | nil => exact .inl ⟨marks, rfl, by simp⟩
  | cons d ds ih =>
    simp only [paintAll]
    by_cases outside : Outside length d
    · exact .inr ⟨d, by rw [if_pos outside], by simp [outside]⟩
    · rw [if_neg outside, List.find?_cons_of_neg (by simpa using outside)]
      rcases ih (paint d marks) with ⟨painted, through, inside⟩ | refused
      · refine .inl ⟨painted, through, ?_⟩
        intro e he
        rcases List.mem_cons.mp he with rfl | he
        · exact outside
        · exact inside e he
      · exact .inr refused

theorem eq_of_levels (h : levels length ds = .ok painted) :
    painted = (List.range length).map (levelAt ds) := by
  apply List.ext_getElem?
  intro i
  rw [getElem?_paintAll h, List.getElem?_map, List.getElem?_replicate]
  by_cases inside : i < length
  · simp [inside]
  · simp [inside]

theorem getElem?_levels (h : levels length ds = .ok painted) {i : Nat} (inside : i < length) :
    painted[i]? = some (levelAt ds i) := by
  rw [eq_of_levels h, List.getElem?_map, List.getElem?_range inside]
  rfl

theorem levels_eq_ok_iff :
    levels length ds = .ok painted ↔
      (∀ d ∈ ds, ¬Outside length d) ∧ painted = (List.range length).map (levelAt ds) := by
  rcases levels_eq length ds with ⟨own, through, inside⟩ | ⟨d, failed, first⟩
  · rw [through, Except.ok.injEq, eq_of_levels through]
    exact ⟨fun same => ⟨inside, same.symm⟩, fun h => h.2.symm⟩
  · have outside : Outside length d := by simpa using List.find?_some first
    simp only [failed, reduceCtorEq, false_iff, not_and]
    intro inside
    exact absurd outside (inside d (List.mem_of_find?_eq_some first))

theorem find?_outside_iff :
    ds.find? (fun d => Outside length d) = some d ↔ ∃ before after, ds = before ++ d :: after ∧
      (∀ b ∈ before, ¬Outside length b) ∧ Outside length d := by
  rw [List.find?_eq_some_iff_append]
  constructor
  · rintro ⟨outside, before, after, shape, inside⟩
    exact ⟨before, after, shape, by simpa using inside, by simpa using outside⟩
  · rintro ⟨before, after, shape, inside, outside⟩
    exact ⟨by simpa using outside, before, after, shape, by simpa using inside⟩

theorem levels_eq_error_iff :
    levels length ds = .error e ↔ ∃ before d after, ds = before ++ d :: after ∧
      (∀ b ∈ before, ¬Outside length b) ∧ Outside length d ∧ fault length d = e := by
  constructor
  · intro refused
    rcases levels_eq length ds with ⟨own, through, _⟩ | ⟨d, failed, first⟩
    · cases through.symm.trans refused
    · obtain ⟨before, after, shape, inside, outside⟩ := find?_outside_iff.mp first
      exact ⟨before, d, after, shape, inside, outside, Except.error.inj (failed.symm.trans refused)⟩
  · rintro ⟨before, d, after, shape, inside, outside, rfl⟩
    have found := find?_outside_iff.mpr ⟨before, after, shape, inside, outside⟩
    rcases levels_eq length ds with ⟨own, _, all⟩ | ⟨c, failed, first⟩
    · exact absurd outside (all d (List.mem_of_find?_eq_some found))
    · rw [failed, Option.some.inj (first.symm.trans found)]

theorem refused_iff_outside :
    (∃ e, levels length ds = .error e) ↔ ∃ d ∈ ds, Outside length d := by
  constructor
  · rintro ⟨e, refused⟩
    obtain ⟨before, d, after, rfl, _, outside, _⟩ := levels_eq_error_iff.mp refused
    exact ⟨d, by simp, outside⟩
  · rintro ⟨d, hd, outside⟩
    rcases levels_eq length ds with ⟨own, _, inside⟩ | ⟨c, failed, _⟩
    · exact absurd outside (inside d hd)
    · exact ⟨_, failed⟩

/-- Whether colour is refused, and the levels if it is not, do not depend on the order. -/
theorem levels_perm {ds' : List Diagnostic} (h : ds.Perm ds') :
    levels length ds = .ok painted ↔ levels length ds' = .ok painted := by
  have same : levelAt ds = levelAt ds' := by
    funext i
    simp only [levelAt, h.mem_iff]
  simp only [levels_eq_ok_iff, h.mem_iff, same]

/-- The order of the diagnostics has a say in neither, though the first one outside is blamed. -/
theorem refused_perm {ds' : List Diagnostic} (h : ds.Perm ds') :
    (∃ e, levels length ds = .error e) ↔ ∃ e, levels length ds' = .error e := by
  simp only [refused_iff_outside, h.mem_iff]

end DiagCheck.Highlight

namespace DiagCheck.Overlay

open Highlight

variable {source : Text} {ds : List Diagnostic} {e : Render.Fault}

theorem print_eq_error_iff (lead : Text) :
    (print lead source ds true).result = .error e ↔
      source ≠ [] ∧ levels source.length ds = .error e := by
  unfold print
  by_cases empty : source = []
  · simp [empty, Output.pure]
  · cases marks : levels source.length ds with
    | error f => simp [empty, Output.fail]
    | ok painted => simp [empty, Output.write]

end DiagCheck.Overlay

namespace DiagCheck.Highlight

open Overlay

/-- Highlights are refused if some diagnostic lies outside the source, and the first one that does
is named as long as its offsets may be written. Otherwise each character has the highest level
among the diagnostics that cover it. The order of the diagnostics changes neither. A coloured
source is shown unless its highlights are refused, and then nothing of it is shown; an uncoloured
one always is. -/
theorem levels_pointwise (lead source : Text) (ds : List Diagnostic) :
    ((∃ e, levels source.length ds = .error e) ↔ ∃ d ∈ ds, Outside source.length d) ∧
    (∀ message, (∃ e, levels source.length ds = .error e ∧ e.message = message) ↔
      ∃ before d after, ds = before ++ d :: after ∧ (∀ b ∈ before, ¬Outside source.length b) ∧
        Outside source.length d ∧ message =
          if d.Writable then
            "Location (".toList ++ Numeral.ofInt d.start ++ ['-'] ++ Numeral.ofInt d.stop ++
              ") outside of source of length ".toList ++ Numeral.ofNat source.length
          else Numeral.tooLongToWrite) ∧
    (∀ painted, levels source.length ds = .ok painted ↔ (∀ d ∈ ds, ¬Outside source.length d) ∧
      painted = (List.range source.length).map (levelAt ds)) ∧
    (∀ ds', ds.Perm ds' →
      ((∃ e, levels source.length ds = .error e) ↔ ∃ e, levels source.length ds' = .error e) ∧
      ∀ painted, levels source.length ds = .ok painted ↔
        levels source.length ds' = .ok painted) ∧
    (∀ e, (print lead source ds true).result = .error e ↔
      source ≠ [] ∧ levels source.length ds = .error e) ∧
    (∀ e, (print lead source ds true).result = .error e →
      (print lead source ds true).text = []) ∧
    (print lead source ds false).result = .ok () := by
  have told (d : Diagnostic) : (fault source.length d).message = if d.Writable then
      "Location (".toList ++ Numeral.ofInt d.start ++ ['-'] ++ Numeral.ofInt d.stop ++
        ") outside of source of length ".toList ++ Numeral.ofNat source.length
      else Numeral.tooLongToWrite := by
    unfold fault
    split <;> rfl
  refine ⟨refused_iff_outside, ?_, fun _ => levels_eq_ok_iff,
    fun _ perm => ⟨refused_perm perm, fun _ => levels_perm perm⟩, fun _ => print_eq_error_iff lead,
    fun _ => text_of_print_error, rfl⟩
  intro message
  simp only [levels_eq_error_iff, ← told]
  constructor
  · rintro ⟨_, ⟨before, d, after, shape, inside, outside, rfl⟩, rfl⟩
    exact ⟨before, d, after, shape, inside, outside, rfl⟩
  · rintro ⟨before, d, after, shape, inside, outside, rfl⟩
    exact ⟨_, ⟨before, d, after, shape, inside, outside, rfl⟩, rfl⟩

/-- No place is named where a number has too many digits. -/
theorem offsetTooLong_ne (start middle stop behind length : Text) :
    Render.Fault.offsetTooLong.message ≠
      "Location (".toList ++ start ++ middle ++ stop ++ behind ++ length := by
  intro same
  have exceeds : Render.Fault.offsetTooLong.message.head? = some 'E' := by decide +kernel
  have location :
      ("Location (".toList ++ start ++ middle ++ stop ++ behind ++ length).head? = some 'L' := rfl
  rw [same, location] at exceeds
  exact absurd exceeds (by decide)

/-- A diagnostic outside the source is not named if one of its offsets has too many digits. -/
theorem levels_unnamed :
    let d : Diagnostic := {
      kind := "TypeError".toList, message := "m".toList, start := 0, stop := Nat.pow 10 4300 }
    Outside 3 d ∧ ∃ e, levels 3 [d] = .error e ∧
      e.message ≠ "Location (".toList ++ Numeral.ofInt d.start ++ ['-'] ++ Numeral.ofInt d.stop ++
        ") outside of source of length ".toList ++ Numeral.ofNat 3 := by
  intro d
  have unwritable : ¬d.Writable := by decide +kernel
  have outside : Outside 3 d := by decide +kernel
  have refused : levels 3 [d] = .error .offsetTooLong :=
    levels_eq_error_iff.mpr ⟨[], d, [], rfl, nofun, outside, if_neg unwritable⟩
  exact ⟨outside, _, refused, offsetTooLong_ne _ _ _ _ _⟩

end DiagCheck.Highlight
