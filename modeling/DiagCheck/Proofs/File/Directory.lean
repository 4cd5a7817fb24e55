import DiagCheck.File.Directory

/-! Files under writes. A path that leads to a file leads to it after any write, a file that was
written has the bytes it was given, and every other file keeps its own. -/
namespace DiagCheck.Directory

variable {d : Directory} {path name step : Text} {steps : List Text} {bytes : Bytes}

@[simp] theorem isNone_lookup_replace (d : Directory) (name step : Text) (bytes : Bytes) :
    ((d.replace name bytes).lookup step).isNone = (d.lookup step).isNone := by
  rw [lookup_replace]
  split
  · rw [Option.isNone_map]
  · rfl

@[simp] theorem follow_replace (d : Directory) (name : Text) (bytes : Bytes) (steps : List Text) :
    (d.replace name bytes).follow steps = d.follow steps := by
  induction steps with
  | nil => rfl
  | cons step steps ih => simp only [follow, ih, isNone_lookup_replace]

@[simp] theorem locate_replace (d : Directory) (name : Text) (bytes : Bytes) (path : Text) :
    (d.replace name bytes).locate path = d.locate path := by
  unfold locate
  simp only [follow_replace]

theorem replace_replace (d : Directory) (name : Text) (old bytes : Bytes) :
    (d.replace name old).replace name bytes = d.replace name bytes := by
  simp only [replace, List.map_map]
  refine List.map_congr_left ?_
  rintro ⟨n, b⟩ _
  by_cases h : n = name
  · simp [h]
  · simp [h]

theorem replace_comm (d : Directory) {m n : Text} (h : m ≠ n) (a b : Bytes) :
    (d.replace m a).replace n b = (d.replace n b).replace m a := by
  simp only [replace, List.map_map]
  refine List.map_congr_left ?_
  rintro ⟨k, old⟩ _
  by_cases hm : k = m
  · subst hm
    simp [h]
  · by_cases hn : k = n
    · subst hn
      simp [hm]
    · simp [hm, hn]

/-! ## Steps of a path -/

/-- The step can be the name of a file. -/
def IsEntry (step : Text) : Prop := step ≠ ['.', '.'] ∧ ¬isTooLong step = true

/-- The path is followed step by step. -/
structure IsFollowed (path : Text) : Prop where
  plain : '\x00' ∉ path
  short : ¬pathLimit < (Utf8.encode path).length
  nonempty : path ≠ []
  inside : ∀ rest, path ≠ '/' :: rest

theorem follow_of_stays (still : stays step = true) (d : Directory) (steps : List Text) :
    d.follow (step :: steps) = d.follow steps := by
  rw [follow, if_pos still]

/-- A step that moves leads to the file of its name, and only if it is the last one. -/
theorem follow_eq_ok_iff (moves : ¬stays step = true) : d.follow (step :: steps) = .ok name ↔
    IsEntry step ∧ (d.lookup step).isNone = false ∧ steps = [] ∧ step = name := by
  rw [follow, if_neg moves, IsEntry]
  split
  · next up => simp [up]
  · next inside =>
    split
    · next long => simp [long]
    · next short =>
      split
      · next absent => simp [absent]
      · next there => split <;> simp_all

theorem follow_eq_missing_iff (moves : ¬stays step = true) :
    d.follow [step] = .error .missing ↔ IsEntry step ∧ (d.lookup step).isNone = true := by
  rw [follow, if_neg moves, IsEntry]
  split
  · next up => simp [up, outside]
  · next inside =>
    split
    · next long => simp [long]
    · next short =>
      split
      · next absent => simp [absent, inside, short]
      · next there => simp [there]

theorem locate_of_isFollowed (h : IsFollowed path) (d : Directory) :
    d.locate path = d.follow (Text.pieces '/' path) := by
  unfold locate
  rw [if_neg h.plain, if_neg h.short]
  split
  · exact absurd rfl h.nonempty
  · next rest => exact absurd rfl (h.inside rest)
  · rfl

theorem isFollowed_of_locate (h : d.locate path = .ok name) : IsFollowed path := by
  unfold locate at h
  split at h
  · cases h
  · next plain =>
    split at h
    · cases h
    · next short =>
      split at h
      · cases h
      · cases h
      · next nonempty inside => exact ⟨plain, short, nonempty, inside⟩

theorem lookup_of_follow {steps : List Text} (h : d.follow steps = .ok name) :
    ∃ bytes, d.lookup name = some bytes := by
  induction steps with
  | nil => cases h
  | cons step steps ih =>
    by_cases still : stays step = true
    · rw [follow_of_stays still] at h
      exact ih h
    · obtain ⟨-, there, -, rfl⟩ := (follow_eq_ok_iff still).mp h
      exact Option.ne_none_iff_exists'.mp (by simpa using there)

theorem lookup_of_locate (h : d.locate path = .ok name) : ∃ bytes, d.lookup name = some bytes := by
  rw [locate_of_isFollowed (isFollowed_of_locate h)] at h
  exact lookup_of_follow h

/-! ## Writes -/

theorem write_of_locate (h : d.locate path = .ok name) (bytes : Bytes) :
    d.write path bytes = d.replace name bytes := by
  simp only [write, h]

/-- Writing to a file and giving bytes to another one can be done in either order. -/
theorem write_replace_of_ne {other : Text} (h : d.locate path = .ok name) (ne : other ≠ name)
    (old new : Bytes) :
    (d.replace other old).write path new = (d.write path new).replace other old := by
  have same : (d.replace other old).locate path = .ok name := by rw [locate_replace, h]
  rw [write_of_locate same, write_of_locate h, replace_comm d ne]

theorem read_eq_ok_iff :
    d.read path = .ok bytes ↔ ∃ name, d.locate path = .ok name ∧ d.lookup name = some bytes := by
  unfold read
  cases d.locate path with
  | error o => simp [Except.bind]
  | ok name =>
    simp only [Except.bind, Except.ok.injEq, exists_eq_left']
    cases d.lookup name with
    | none => simp
    | some old => simp

theorem read_replace (h : d.locate path = .ok name) (bytes : Bytes) :
    (d.replace name bytes).read path = .ok bytes := by
  obtain ⟨old, there⟩ := lookup_of_locate h
  refine read_eq_ok_iff.mpr ⟨name, by rw [locate_replace, h], ?_⟩
  rw [lookup_replace, if_pos rfl, there]
  rfl

theorem read_replace_of_ne {other : Text} (h : d.locate path ≠ .ok other) (bytes : Bytes) :
    (d.replace other bytes).read path = d.read path := by
  unfold read
  rw [locate_replace]
  cases found : d.locate path with
  | error o => rfl
  | ok name =>
    have ne : name ≠ other := fun e => h (by rw [found, e])
    simp only [Except.bind, lookup_replace, if_neg ne]

/-- What is written to a file is read from it. -/
theorem read_write {old : Bytes} (h : d.read path = .ok old) (bytes : Bytes) :
    (d.write path bytes).read path = .ok bytes := by
  obtain ⟨name, found, _⟩ := read_eq_ok_iff.mp h
  rw [write_of_locate found]
  exact read_replace found bytes

/-! ## New files -/

theorem newName?_eq_some_iff : d.newName? path = some name ↔ d.locate path = .error .missing ∧
    name? path = some name ∧ (Text.pieces '/' path).getLast? = some name := by
  unfold newName?
  split
  · next missing => simp [missing, Option.filter_eq_some_iff]
  · next other =>
    constructor
    · nofun
    · intro h
      exact absurd h.1 other

theorem steps_of_name? (h : name? path = some name) :
    (Text.pieces '/' path).filter (!stays ·) = [name] := by
  unfold name? at h
  split at h
  · cases h
  · split at h
    · next single =>
      cases h
      exact single
    · cases h

/-- A step that is no step to the same place is the last one if only the last one is none. -/
theorem eq_nil_of_filter_stays (moves : ¬stays step = true)
    (only : (step :: steps).filter (!stays ·) = [name])
    (last : (step :: steps).getLast? = some name) : step = name ∧ steps = [] := by
  obtain ⟨rfl, rest⟩ : step = name ∧ steps.filter (!stays ·) = [] := by
    simpa [moves] using only
  refine ⟨rfl, ?_⟩
  cases steps with
  | nil => rfl
  | cons next steps =>
    rw [List.getLast?_cons_cons] at last
    have inside : step ∈ next :: steps := List.mem_of_getLast? last
    exact absurd (by simpa using List.filter_eq_nil_iff.mp rest step inside) moves

/-- The steps of a path to a file that is not there lead to it once it is. -/
theorem follow_append (missing : d.follow steps = .error .missing)
    (only : steps.filter (!stays ·) = [name]) (last : steps.getLast? = some name)
    (bytes : Bytes) :
    d.lookup name = none ∧ (d ++ [(name, bytes)]).follow steps = .ok name := by
  induction steps with
  | nil => cases last
  | cons step steps ih =>
    by_cases still : stays step = true
    · have later : steps.getLast? = some name := by
        cases steps with
        | nil => simp [still] at only
        | cons next steps => simpa using last
      rw [follow_of_stays still] at missing ⊢
      exact ih missing (by simpa [still] using only) later
    · obtain ⟨rfl, rfl⟩ := eq_nil_of_filter_stays still only last
      obtain ⟨entry, absent⟩ := (follow_eq_missing_iff still).mp missing
      rw [Option.isNone_iff_eq_none] at absent
      have there : ((d ++ [(step, bytes)]).lookup step).isNone = false := by
        simp [List.lookup_append, absent]
      exact ⟨absent, (follow_eq_ok_iff still).mpr ⟨entry, there, rfl, rfl⟩⟩

/-- A path to a new file is followed, as another one could not lead to a name. -/
theorem isFollowed_of_newName? (new : d.newName? path = some name) : IsFollowed path := by
  obtain ⟨missing, only, -⟩ := newName?_eq_some_iff.mp new
  refine ⟨fun code => ?_, fun long => ?_, ?_, ?_⟩
  · unfold locate at missing
    rw [if_pos code] at missing
    cases missing
  · unfold locate at missing
    rw [if_pos long] at missing
    split at missing <;> cases missing
  · rintro rfl
    cases only
  · rintro rest rfl
    cases only

theorem locate_append (new : d.newName? path = some name) (bytes : Bytes) :
    d.lookup name = none ∧ (d ++ [(name, bytes)]).locate path = .ok name := by
  have followed := isFollowed_of_newName? new
  obtain ⟨missing, only, last⟩ := newName?_eq_some_iff.mp new
  rw [locate_of_isFollowed followed] at missing ⊢
  exact follow_append missing (steps_of_name? only) last bytes

/-- What is written to a new file is read from it. -/
theorem read_write_new (new : d.newName? path = some name) (bytes : Bytes) :
    (d.write path bytes).read path = .ok bytes := by
  obtain ⟨missing, -, -⟩ := newName?_eq_some_iff.mp new
  obtain ⟨absent, found⟩ := locate_append new bytes
  have written : d.write path bytes = d ++ [(name, bytes)] := by simp only [write, missing, new]
  rw [written, read_eq_ok_iff]
  exact ⟨name, found, by simp [List.lookup_append, absent]⟩

end DiagCheck.Directory
