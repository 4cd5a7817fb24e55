import DiagCheck.Proofs.Sections.Parts
import DiagCheck.Proofs.Text.Lines

/-! The sections of a test file by the places of the marks. The two places cut the lines in
three: a source in front, settings between the marks, and annotations behind. Only a line
between the marks can be refused, and the first one that is refused is reported. -/
namespace DiagCheck.Sections

/-- The place of the line that opens the annotations, which is the end if there is none. -/
def annotationsPlace (ls : List Text) : Nat := ls.findIdx opensAnnotations

/-- The place of the line that opens the settings. If there is none in front of the annotations,
it is the place of these. -/
def settingsPlace (ls : List Text) : Nat := (ls.take (annotationsPlace ls)).findIdx opensSettings

/-- The lines between the places, but for those that open the settings once more. -/
def settingLines (ls : List Text) : List Text :=
  ((ls.take (annotationsPlace ls)).drop (settingsPlace ls + 1)).filter fun l => !opensSettings l

variable {ls : List Text}

theorem takeWhile_annotations (ls : List Text) :
    (ls.takeWhile fun l => !opensAnnotations l) = ls.take (annotationsPlace ls) := by
  simp [annotationsPlace, List.takeWhile_eq_take_findIdx_not]

theorem settingsPlace_le (ls : List Text) : settingsPlace ls ≤ annotationsPlace ls := by
  have within : settingsPlace ls ≤ (ls.take (annotationsPlace ls)).length := List.findIdx_le_length
  rw [List.length_take] at within
  omega

theorem sourcePart_eq_take (ls : List Text) : sourcePart ls = ls.take (settingsPlace ls) := by
  have nested : sourcePart ls =
      (ls.takeWhile fun l => !opensAnnotations l).takeWhile fun l => !opensSettings l := by
    simp [sourcePart, List.takeWhile_takeWhile, Bool.and_comm]
  rw [nested, takeWhile_annotations, List.takeWhile_eq_take_findIdx_not, List.take_take]
  simp only [Bool.not_not]
  exact congrArg (ls.take ·) (Nat.min_eq_left (settingsPlace_le ls))

theorem settingsPart_eq_drop (ls : List Text) :
    settingsPart ls = (ls.take (annotationsPlace ls)).drop (settingsPlace ls + 1) := by
  rw [settingsPart, takeWhile_annotations, List.dropWhile_eq_drop_findIdx_not, List.tail_drop]
  simp [settingsPlace]

theorem annotationsPart_eq_drop (ls : List Text) :
    annotationsPart ls = ls.drop (annotationsPlace ls + 1) := by
  rw [annotationsPart, List.dropWhile_eq_drop_findIdx_not, List.tail_drop]
  simp [annotationsPlace]

theorem ofLines_places (ls : List Text) :
    ofLines ls = ((settingLines ls).mapM readSetting).map fun entries =>
      ⟨(ls.take (settingsPlace ls)).flatMap fun l => Text.dropLineEnd l ++ ['\n'],
        Settings.putAll [] entries, ls.drop (annotationsPlace ls + 1)⟩ := by
  rw [ofLines_eq, settingsPart_eq_drop, sourcePart_eq_take, annotationsPart_eq_drop]
  rfl

theorem ofLines_of_assigns {entries : List (Text × Text)}
    (h : List.Forall₂ Assigns (settingLines ls) entries) :
    ofLines ls = .ok
      ⟨(ls.take (settingsPlace ls)).flatMap fun l => Text.dropLineEnd l ++ ['\n'],
        Settings.putAll [] entries, ls.drop (annotationsPlace ls + 1)⟩ := by
  have read : (settingLines ls).mapM readSetting = .ok entries :=
    mapM_eq_ok_iff.mpr (h.imp fun _ _ => assigns_iff.mp)
  rw [ofLines_places, read]
  rfl

theorem ofLines_eq_ok_iff :
    (∃ r, ofLines ls = .ok r) ↔ ∃ entries, List.Forall₂ Assigns (settingLines ls) entries := by
  constructor
  · rintro ⟨r, read⟩
    rw [ofLines_places] at read
    cases each : (settingLines ls).mapM readSetting with
    | error d =>
      rw [each] at read
      cases read
    | ok entries => exact ⟨entries, (mapM_eq_ok_iff.mp each).imp fun _ _ => assigns_iff.mpr⟩
  · rintro ⟨entries, each⟩
    exact ⟨_, ofLines_of_assigns each⟩

theorem ofLines_eq_error_iff {d : Defect} :
    ofLines ls = .error d ↔ ∃ before l after, settingLines ls = before ++ l :: after ∧
      (∀ m ∈ before, ∃ entry, Assigns m entry) ∧ readSetting l = .error d := by
  simp only [assigns_iff]
  rw [← mapM_eq_error_iff, ofLines_places]
  cases (settingLines ls).mapM readSetting <;> simp [Except.map]

theorem failure_iff {message : Text} :
    (∃ d, ofLines ls = .error d ∧ d.message = message) ↔
      ∃ before l after, settingLines ls = before ++ l :: after ∧
        (∀ m ∈ before, ∃ entry, Assigns m entry) ∧ Refused l message := by
  simp only [ofLines_eq_error_iff, refused_iff]
  constructor
  · rintro ⟨d, ⟨before, l, after, shape, good, failed⟩, told⟩
    exact ⟨before, l, after, shape, good, d, failed, told⟩
  · rintro ⟨before, l, after, shape, good, d, failed, told⟩
    exact ⟨d, ⟨before, l, after, shape, good, failed⟩, told⟩

/-- Lines of which none is a mark are source. -/
theorem ofLines_of_unmarked (h : ∀ l ∈ ls, opensAnnotations l = false ∧ opensSettings l = false) :
    ofLines ls = .ok ⟨ls.flatMap fun l => Text.dropLineEnd l ++ ['\n'], [], []⟩ := by
  rw [← List.append_nil ls, ofLines_append h, List.append_nil]
  simp [ofLines, Except.map]

/-- A source without carriage returns is taken over as it is, closed by a newline. -/
theorem source_of_text {t : Text} (plain : '\r' ∉ t) :
    (Text.lines t).flatMap (fun l => Text.dropLineEnd l ++ ['\n']) = Text.close t := by
  rw [← Text.flatMap_rows, Text.rows, List.flatMap_map]
  exact List.flatMap_congr fun l hl => by rw [Text.dropLineEnd_of_mem_lines hl plain]

/-- Lines are split at the places of the marks. The sections are there if every line between the
marks gives a value to a name: a name then has the place of its first value and the value that it
was given last. Otherwise the first of these lines that does not is reported. Lines without marks
are source, and a text without them and without carriage returns is its own source. -/
theorem ofLines_split (ls : List Text) :
    ((∃ r, ofLines ls = .ok r) ↔ ∃ entries, List.Forall₂ Assigns (settingLines ls) entries) ∧
    (∀ entries, List.Forall₂ Assigns (settingLines ls) entries → ∃ r, ofLines ls = .ok r ∧
      r.source = (ls.take (settingsPlace ls)).flatMap (fun l => Text.dropLineEnd l ++ ['\n']) ∧
      r.annotations = ls.drop (annotationsPlace ls + 1) ∧
      r.settings.keys = (entries.map Prod.fst).eraseDups ∧
      ∀ key, r.settings.get? key = entries.reverse.lookup key) ∧
    (∀ message, (∃ d, ofLines ls = .error d ∧ d.message = message) ↔
      ∃ before l after, settingLines ls = before ++ l :: after ∧
        (∀ m ∈ before, ∃ entry, Assigns m entry) ∧ Refused l message) ∧
    ((∀ l ∈ ls, opensAnnotations l = false ∧ opensSettings l = false) → ∃ r, ofLines ls = .ok r ∧
      r.source = ls.flatMap (fun l => Text.dropLineEnd l ++ ['\n']) ∧ r.settings = [] ∧
      r.annotations = [] ∧ ∀ t, ls = Text.lines t → '\r' ∉ t → r.source = Text.close t) := by
  refine ⟨ofLines_eq_ok_iff, ?_, fun _ => failure_iff, ?_⟩
  · intro entries each
    exact ⟨_, ofLines_of_assigns each, rfl, rfl, Settings.keys_putAll_nil entries,
      Settings.get?_putAll_nil entries⟩
  · intro unmarked
    refine ⟨_, ofLines_of_unmarked unmarked, rfl, rfl, rfl, ?_⟩
    rintro t rfl plain
    exact source_of_text plain

/-- A line that opens the settings once more is passed over, and a setting that is given twice
stays where it was. -/
example :
    let ls := Text.lines
      "uint x;\r\n// ====\n// a: 1\n// b : 2\n// ==== a: 0\n// a:3 : 4\n// ----\n// ==\r\n".toList
    settingsPlace ls = 1 ∧ annotationsPlace ls = 6 ∧ ofLines ls = .ok {
      source := "uint x;\n".toList
      settings := [("a".toList, "3 : 4".toList), ("b".toList, "2".toList)]
      annotations := ["// ==\r\n".toList] } := by
  decide +kernel

end DiagCheck.Sections
