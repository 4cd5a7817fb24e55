import Mathlib.Data.List.Infix
import Mathlib.Data.List.Forall2
import DiagCheck.Proofs.Settings
import DiagCheck.Sections

/-! The parts of a test file, told by the first line that opens the settings and the first one
that opens the annotations. Each section is read off its own part and from no other line. -/
namespace DiagCheck.Sections

/-- The lines in front of the first that opens a section. -/
def sourcePart (ls : List Text) : List Text :=
  ls.takeWhile fun l => !opensAnnotations l && !opensSettings l

/-- The lines between the first that opens the settings and the first that opens the
annotations. -/
def settingsPart (ls : List Text) : List Text :=
  ((ls.takeWhile fun l => !opensAnnotations l).dropWhile fun l => !opensSettings l).tail

/-- The lines behind the first that opens the annotations. -/
def annotationsPart (ls : List Text) : List Text := (ls.dropWhile fun l => !opensAnnotations l).tail

/-! ## Lines of settings -/

/-- The line gives the name a value. Blanks around the name do not count. -/
def Gives (key line : Text) : Prop :=
  ∃ name value, Text.dropLineEnd line = "// ".toList ++ name ++ ':' :: value ∧ ':' ∉ name ∧
    Text.trim name = key

/-- The line gives the value to the name, each without the blanks around it. -/
def Assigns (line : Text) (entry : Text × Text) : Prop :=
  ∃ name value, Text.dropLineEnd line = "// ".toList ++ name ++ ':' :: value ∧ ':' ∉ name ∧
    (Text.trim name, Text.trim value) = entry

/-- The line is no setting, and this is said of it. -/
inductive Refused (line : Text) : Text → Prop where
  | noComment : ¬"// ".toList <+: Text.dropLineEnd line →
      Refused line "Expected \"//\" or \"// ---\" to terminate settings and source.".toList
  | noColon : Text.dropLineEnd line = "// ".toList ++ rest → ':' ∉ rest →
      Refused line "Expected \":\" inside setting.".toList

/-- A comment is read behind its mark. -/
theorem readSetting_comment {line rest : Text} (h : Text.dropLineEnd line = "// ".toList ++ rest) :
    readSetting line = match Text.cut? ':' rest with
      | none => .error .noColon
      | some (name, value) => .ok (Text.trim name, Text.trim value) := by
  have comment : "// ".toList.isPrefixOf (Text.dropLineEnd line) = true := by
    rw [h]
    exact List.isPrefixOf_iff_prefix.mpr (List.prefix_append _ _)
  have behind : (Text.dropLineEnd line).drop 3 = rest := by
    rw [h]
    rfl
  rw [← behind]
  exact if_pos comment

theorem readSetting_of_no_comment {line : Text} (h : ¬"// ".toList <+: Text.dropLineEnd line) :
    readSetting line = .error .noComment :=
  if_neg fun comment => h (List.isPrefixOf_iff_prefix.mp comment)

/-- A line is a setting, or it is refused for what it lacks. -/
theorem readSetting_cases (line : Text) :
    (∃ entry, readSetting line = .ok entry ∧ Assigns line entry) ∨
      ∃ d, readSetting line = .error d ∧ Refused line d.message := by
  by_cases comment : "// ".toList <+: Text.dropLineEnd line
  · obtain ⟨rest, shape⟩ := comment
    have read := readSetting_comment shape.symm
    cases cut : Text.cut? ':' rest with
    | none =>
      rw [cut] at read
      exact .inr ⟨_, read, .noColon shape.symm (Text.cut?_eq_none_iff.mp cut)⟩
    | some parts =>
      obtain ⟨name, value⟩ := parts
      rw [cut] at read
      obtain ⟨rfl, plain⟩ := Text.cut?_eq_some_iff.mp cut
      exact .inl ⟨_, read, name, value, by rw [← shape, List.append_assoc], plain, rfl⟩
  · exact .inr ⟨_, readSetting_of_no_comment comment, .noComment comment⟩

theorem assigns_iff {line : Text} {entry : Text × Text} :
    Assigns line entry ↔ readSetting line = .ok entry := by
  constructor
  · rintro ⟨name, value, shape, plain, rfl⟩
    rw [List.append_assoc] at shape
    rw [readSetting_comment shape, Text.cut?_eq_some_iff.mpr ⟨rfl, plain⟩]
  · intro read
    rcases readSetting_cases line with ⟨own, same, assigns⟩ | ⟨d, failed, _⟩
    · cases same.symm.trans read
      exact assigns
    · cases failed.symm.trans read

theorem refused_iff {line message : Text} :
    Refused line message ↔ ∃ d, readSetting line = .error d ∧ d.message = message := by
  constructor
  · intro refused
    cases refused with
    | noComment bare => exact ⟨_, readSetting_of_no_comment bare, rfl⟩
    | noColon shape bare =>
      refine ⟨.noColon, ?_, rfl⟩
      rw [readSetting_comment shape, Text.cut?_eq_none_iff.mpr bare]
  · rintro ⟨d, failed, rfl⟩
    rcases readSetting_cases line with ⟨entry, read, _⟩ | ⟨e, same, refused⟩
    · cases failed.symm.trans read
    · cases failed.symm.trans same
      exact refused

theorem gives_iff {key line : Text} : Gives key line ↔ ∃ v, readSetting line = .ok (key, v) := by
  simp only [← assigns_iff]
  constructor
  · rintro ⟨name, value, shape, plain, same⟩
    exact ⟨Text.trim value, name, value, shape, plain, by rw [same]⟩
  · rintro ⟨v, name, value, shape, plain, same⟩
    exact ⟨name, value, shape, plain, (Prod.mk.inj same).1⟩

instance (key line : Text) : Decidable (Gives key line) :=
  decidable_of_iff ((readSetting line).toOption.map (·.1) = some key) <| by
    rw [gives_iff]
    rcases readSetting line with d | ⟨name, v⟩ <;> simp [Except.toOption]

/-- A line that opens the settings gives a value to no name without an equals sign in front. -/
theorem not_gives_of_opensSettings {key line : Text} (opens : opensSettings line = true)
    (other : key.head? ≠ some '=') (some : key ≠ []) : ¬Gives key line := by
  rintro ⟨name, value, shape, _, rfl⟩
  obtain ⟨rest, marked⟩ := List.isPrefixOf_iff_prefix.mp opens
  have mark : settingsMark = "// ".toList ++ '=' :: "===".toList := by decide
  rw [shape, mark, List.append_assoc, List.append_assoc] at marked
  have same : '=' :: ("===".toList ++ rest) = name ++ ':' :: value :=
    List.append_cancel_left marked
  cases name with
  | nil => simp at same
  | cons c name =>
    obtain rfl : '=' = c := (List.cons.inj same).1
    have unblank : isBlank '=' = false := by decide
    have front : Text.trim ('=' :: name) <+: '=' :: name := by
      have := Text.dropEnd_prefix isBlank (Text.skipBlank ('=' :: name))
      simpa [Text.trim, Text.skipBlank, unblank] using this
    cases trimmed : Text.trim ('=' :: name) with
    | nil => exact some trimmed
    | cons d t =>
      rw [trimmed] at front other
      obtain rfl : d = '=' := (List.cons_prefix_cons.mp front).1
      exact other rfl

/-! ## Settings as a whole -/

section Traversal

variable {f : α → Except ε β} {a : α} {l : List α}

theorem mapM_cons_of_error {e : ε} (h : f a = .error e) : (a :: l).mapM f = .error e := by
  rw [List.mapM_cons, h]
  rfl

theorem mapM_cons_of_ok {b : β} (h : f a = .ok b) :
    (a :: l).mapM f = (l.mapM f).map (b :: ·) := by
  rw [List.mapM_cons, h]
  cases rest : l.mapM f <;> rfl

theorem mapM_eq_ok_iff {out : List β} :
    l.mapM f = .ok out ↔ List.Forall₂ (fun a b => f a = .ok b) l out := by
  induction l generalizing out with
  | nil => simp [Pure.pure, Except.pure, eq_comm]
  | cons a l ih =>
    rw [List.forall₂_cons_left_iff]
    cases first : f a with
    | error e => simp [mapM_cons_of_error first]
    | ok b =>
      simp only [mapM_cons_of_ok first, ← ih]
      cases rest : l.mapM f <;> simp [Except.map, eq_comm]

theorem mem_iff_of_mapM {out : List β} (h : l.mapM f = .ok out) {b : β} :
    b ∈ out ↔ ∃ a ∈ l, f a = .ok b := by
  have pairs := mapM_eq_ok_iff.mp h
  clear h
  induction pairs with
  | nil => simp
  | cons own _ ih => simp [own, ih, eq_comm]

/-- The first failure is the one that counts. -/
theorem mapM_eq_error_iff {e : ε} :
    l.mapM f = .error e ↔ ∃ before a after, l = before ++ a :: after ∧
      (∀ b ∈ before, ∃ c, f b = .ok c) ∧ f a = .error e := by
  induction l with
  | nil => simp [Pure.pure, Except.pure]
  | cons a l ih =>
    simp only [List.cons_eq_append_iff]
    cases first : f a with
    | error d =>
      rw [mapM_cons_of_error first]
      constructor
      · rintro ⟨⟩
        exact ⟨[], a, l, .inl ⟨rfl, rfl⟩, nofun, first⟩
      · rintro ⟨before, c, after, ⟨rfl, shape⟩ | ⟨front, rfl, _⟩, good, failed⟩
        · rw [(List.cons.inj shape).1, first] at failed
          rw [Except.error.inj failed]
        · obtain ⟨c, own⟩ := good a (List.mem_cons_self ..)
          cases first.symm.trans own
    | ok b =>
      have later : (l.mapM f).map (b :: ·) = .error e ↔ l.mapM f = .error e := by
        cases l.mapM f <;> simp [Except.map]
      rw [mapM_cons_of_ok first, later, ih]
      constructor
      · rintro ⟨before, c, after, rfl, good, failed⟩
        refine ⟨a :: before, c, after, .inr ⟨before, rfl, rfl⟩, ?_, failed⟩
        intro d hd
        rcases List.mem_cons.mp hd with rfl | hd
        · exact ⟨b, first⟩
        · exact good d hd
      · rintro ⟨before, c, after, ⟨rfl, shape⟩ | ⟨front, rfl, rfl⟩, good, failed⟩
        · rw [(List.cons.inj shape).1, first] at failed
          cases failed
        · exact ⟨front, c, after, rfl, fun d hd => good d (List.mem_cons_of_mem a hd), failed⟩

end Traversal

/-- The settings are read line by line up to the annotations; lines that open them once more are
passed over. -/
theorem readSettings_eq (s : Settings) (ls : List Text) :
    readSettings s ls =
      (((ls.takeWhile fun l => !opensAnnotations l).filter fun l => !opensSettings l).mapM
        readSetting).map fun entries => ⟨[], s.putAll entries, annotationsPart ls⟩ := by
  induction ls generalizing s with
  | nil => rfl
  | cons l ls ih =>
    rw [readSettings]
    by_cases annotations : opensAnnotations l = true
    · have behind : annotationsPart (l :: ls) = ls := by simp [annotationsPart, annotations]
      rw [if_pos annotations, behind, List.takeWhile_cons_of_neg (by simpa using annotations)]
      rfl
    · have behind : annotationsPart (l :: ls) = annotationsPart ls := by
        simp [annotationsPart, annotations]
      rw [if_neg annotations, behind, List.takeWhile_cons_of_pos (by simpa using annotations)]
      by_cases settings : opensSettings l = true
      · rw [if_pos settings, List.filter_cons_of_neg (by simpa using settings), ih]
      · rw [if_neg settings, List.filter_cons_of_pos (by simpa using settings)]
        cases setting : readSetting l with
        | error d =>
          rw [mapM_cons_of_error setting]
          rfl
        | ok entry =>
          rw [mapM_cons_of_ok setting]
          refine (ih _).trans ?_
          cases ((ls.takeWhile fun l => !opensAnnotations l).filter
            fun l => !opensSettings l).mapM readSetting <;> rfl

/-- The sections are the parts: the source with one newline behind each line, the values that are
given between the marks, and the annotation lines as they stand. -/
theorem ofLines_eq (ls : List Text) :
    ofLines ls =
      (((settingsPart ls).filter fun l => !opensSettings l).mapM readSetting).map fun entries =>
        ⟨(sourcePart ls).flatMap fun l => Text.dropLineEnd l ++ ['\n'],
          Settings.putAll [] entries, annotationsPart ls⟩ := by
  induction ls with
  | nil => rfl
  | cons l ls ih =>
    rw [ofLines]
    by_cases annotations : opensAnnotations l = true
    · have front : sourcePart (l :: ls) = [] := by simp [sourcePart, annotations]
      have inside : settingsPart (l :: ls) = [] := by simp [settingsPart, annotations]
      have behind : annotationsPart (l :: ls) = ls := by simp [annotationsPart, annotations]
      rw [if_pos annotations, front, inside, behind]
      rfl
    · have behind : annotationsPart (l :: ls) = annotationsPart ls := by
        simp [annotationsPart, annotations]
      rw [if_neg annotations, behind]
      by_cases settings : opensSettings l = true
      · rw [if_pos settings, readSettings_eq]
        simp [sourcePart, settingsPart, annotations, settings]
      · have inside : settingsPart (l :: ls) = settingsPart ls := by
          simp [settingsPart, annotations, settings]
        have front : sourcePart (l :: ls) = l :: sourcePart ls := by
          simp [sourcePart, annotations, settings]
        rw [if_neg settings, ih, inside, front]
        cases ((settingsPart ls).filter fun l => !opensSettings l).mapM readSetting with
        | error d => rfl
        | ok entries => simp [Except.map]

/-- Each section is read off its part, the names that are given a value among them. -/
theorem ofLines_parts {ls : List Text} {r : Sections} (h : ofLines ls = .ok r) :
    r.source = (sourcePart ls).flatMap (fun l => Text.dropLineEnd l ++ ['\n']) ∧
    r.annotations = annotationsPart ls ∧
    ∀ key, (r.settings.get? key).isSome = true ↔
      ∃ l ∈ settingsPart ls, opensSettings l = false ∧ Gives key l := by
  rw [ofLines_eq] at h
  cases read : ((settingsPart ls).filter fun l => !opensSettings l).mapM readSetting with
  | error d => simp [read, Except.map] at h
  | ok entries =>
    rw [read] at h
    cases h
    refine ⟨rfl, rfl, fun key => Settings.isSome_get?_putAll_nil.trans ?_⟩
    simp only [mem_iff_of_mapM read, List.mem_filter, Bool.not_eq_true', gives_iff]
    constructor
    · rintro ⟨value, l, ⟨inside, closed⟩, own⟩
      exact ⟨l, inside, closed, value, own⟩
    · rintro ⟨l, inside, closed, value, own⟩
      exact ⟨value, l, ⟨inside, closed⟩, own⟩

end DiagCheck.Sections
