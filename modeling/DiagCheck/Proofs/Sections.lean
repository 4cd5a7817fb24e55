import DiagCheck.Proofs.Text.Lines
import DiagCheck.Proofs.Sections.Parts

/-! Sources of test files. A source that was taken out of a text consists of lines that are not
taken for marks, so it is found again whatever is written behind it. -/
namespace DiagCheck.Sections

/-- A line that is read as it stands when it is written into a source. -/
structure SourceLine (l : Text) : Prop where
  plain : '\n' ∉ l
  closed : Text.dropLineEnd l = l
  annotations : opensAnnotations l = false
  settings : opensSettings l = false

def IsSource (source : Text) : Prop :=
  ∃ ls : List Text, (∀ l ∈ ls, SourceLine l) ∧ source = ls.flatMap (· ++ ['\n'])

theorem IsSource.closed {source : Text} (h : IsSource source) (some : source ≠ []) :
    source.getLast? = Option.some '\n' := by
  obtain ⟨ls, _, rfl⟩ := h
  rcases List.eq_nil_or_concat ls with rfl | ⟨front, last, rfl⟩
  · exact absurd rfl some
  · simp

theorem sourceLine_dropLineEnd {l : Text} (plain : '\n' ∉ Text.dropLineEnd l)
    (annotations : opensAnnotations l = false) (settings : opensSettings l = false) :
    SourceLine (Text.dropLineEnd l) := by
  constructor
  · exact plain
  · exact Text.dropLineEnd_dropLineEnd l
  · simpa [opensAnnotations] using annotations
  · simpa [opensSettings] using settings

theorem isSource_of_ofLines {lines : List Text} {s : Sections}
    (plain : ∀ l ∈ lines, '\n' ∉ Text.dropLineEnd l) (h : ofLines lines = .ok s) :
    IsSource s.source := by
  refine ⟨(sourcePart lines).map Text.dropLineEnd, ?_, ?_⟩
  · intro m hm
    obtain ⟨l, hl, rfl⟩ := List.mem_map.mp hm
    have own : l ∈ lines := (List.takeWhile_prefix _).subset hl
    have unmarked : opensAnnotations l = false ∧ opensSettings l = false := by
      simpa using List.mem_takeWhile_imp hl
    exact sourceLine_dropLineEnd (plain l own) unmarked.1 unmarked.2
  · rw [(ofLines_parts h).1, List.flatMap_map]

/-- The annotations are the last lines of a text. -/
theorem annotations_suffix {lines : List Text} {r : Sections} (h : ofLines lines = .ok r) :
    r.annotations <:+ lines := by
  rw [(ofLines_parts h).2.1]
  exact (List.tail_suffix _).trans (List.dropWhile_suffix _)

/-- A source in front of a text stays apart from the sections of that text. -/
theorem ofLines_lines_append {source : Text} (h : IsSource source) (t : Text) :
    ofLines (Text.lines (source ++ t)) =
      (ofLines (Text.lines t)).map fun s => { s with source := source ++ s.source } := by
  obtain ⟨ls, shape, rfl⟩ := h
  rw [Text.lines_flatMap_append fun l hl => (shape l hl).plain]
  have unmarked : ∀ m ∈ ls.map (· ++ ['\n']),
      opensAnnotations m = false ∧ opensSettings m = false := by
    intro m hm
    obtain ⟨l, hl, rfl⟩ := List.mem_map.mp hm
    refine ⟨?_, ?_⟩
    · simpa [opensAnnotations] using (shape l hl).annotations
    · simpa [opensSettings] using (shape l hl).settings
  have same : (ls.map (· ++ ['\n'])).flatMap (fun m => Text.dropLineEnd m ++ ['\n']) =
      ls.flatMap (· ++ ['\n']) := by
    rw [List.flatMap_map]
    refine List.flatMap_congr ?_
    intro l hl
    rw [Text.dropLineEnd_append_newline, (shape l hl).closed]
  rw [ofLines_append unmarked, same]

/-- Behind the mark of the annotations every line is one of them. -/
theorem ofLines_annotationsMark (t : Text) :
    ofLines (Text.lines (annotationsMark ++ '\n' :: t)) = .ok ⟨[], [], Text.lines t⟩ := by
  have marked : opensAnnotations (annotationsMark ++ ['\n']) = true := by decide
  rw [Text.lines_append_newline (by decide), ofLines, if_pos marked]

/-- Behind the mark of the settings everything is read as settings up to the other mark. -/
theorem ofLines_settingsMark (t : Text) :
    ofLines (Text.lines (settingsMark ++ '\n' :: t)) = readSettings [] (Text.lines t) := by
  have unmarked : opensAnnotations (settingsMark ++ ['\n']) = false := by decide
  have marked : opensSettings (settingsMark ++ ['\n']) = true := by decide
  rw [Text.lines_append_newline (by decide), ofLines, unmarked, if_neg Bool.false_ne_true,
    if_pos marked]

theorem readSettings_annotationsMark (s : Settings) (t : Text) :
    readSettings s (Text.lines (annotationsMark ++ '\n' :: t)) = .ok ⟨[], s, Text.lines t⟩ := by
  have marked : opensAnnotations (annotationsMark ++ ['\n']) = true := by decide
  rw [Text.lines_append_newline (by decide), readSettings, if_pos marked]

theorem readSettings_setting {line key value : Text} (plain : '\n' ∉ line)
    (annotations : opensAnnotations (line ++ ['\n']) = false)
    (settings : opensSettings (line ++ ['\n']) = false)
    (setting : readSetting (line ++ ['\n']) = .ok (key, value)) (s : Settings) (t : Text) :
    readSettings s (Text.lines (line ++ '\n' :: t)) =
      readSettings (s.put key value) (Text.lines t) := by
  rw [Text.lines_append_newline plain, readSettings, annotations, settings, setting]
  simp

end DiagCheck.Sections
