import DiagCheck.Settings

/-!
# The sections of a test file

A test file holds a source, then optional settings, then annotation lines. A line that starts
with `// ====` opens the settings and a line that starts with `// ----` opens the annotations;
nothing behind the latter is looked at here.
-/

namespace DiagCheck

structure Sections where
  source : Text
  settings : Settings
  /-- The lines behind the one that opens the annotations, as they are. -/
  annotations : List Text
  deriving DecidableEq, Repr

namespace Sections

def settingsMark : Text := "// ====".toList

def annotationsMark : Text := "// ----".toList

/-- What makes a line between the marks no setting. -/
inductive Defect where
  | noColon
  | noComment
  deriving DecidableEq, Repr

def Defect.message : Defect → Text
  | .noColon => "Expected \":\" inside setting.".toList
  | .noComment => "Expected \"//\" or \"// ---\" to terminate settings and source.".toList

def opensAnnotations (line : Text) : Bool := annotationsMark.isPrefixOf (Text.dropLineEnd line)

def opensSettings (line : Text) : Bool := settingsMark.isPrefixOf (Text.dropLineEnd line)

def readSetting (line : Text) : Except Defect (Text × Text) :=
  if "// ".toList.isPrefixOf (Text.dropLineEnd line) then
    match Text.cut? ':' ((Text.dropLineEnd line).drop 3) with
    | none => .error .noColon
    | some (key, value) => .ok (Text.trim key, Text.trim value)
  else .error .noComment

/-- Reads settings after those in `s`, up to the annotations or the end. -/
def readSettings (s : Settings) : List Text → Except Defect Sections
  | [] => .ok ⟨[], s, []⟩
  | line :: lines =>
    if opensAnnotations line then .ok ⟨[], s, lines⟩
    else if opensSettings line then readSettings s lines
    else match readSetting line with
      | .error d => .error d
      | .ok (key, value) => readSettings (s.put key value) lines

/-- Takes the lines of a test file apart. Each source line ends in one newline in the source,
whatever its own end is. -/
def ofLines : List Text → Except Defect Sections
  | [] => .ok ⟨[], [], []⟩
  | line :: lines =>
    if opensAnnotations line then .ok ⟨[], [], lines⟩
    else if opensSettings line then readSettings [] lines
    else (ofLines lines).map fun s =>
      { s with source := Text.dropLineEnd line ++ '\n' :: s.source }

/-- Lines before the first mark are source and nothing else. -/
theorem ofLines_append {ls ms : List Text}
    (h : ∀ l ∈ ls, opensAnnotations l = false ∧ opensSettings l = false) :
    ofLines (ls ++ ms) = (ofLines ms).map fun s =>
      { s with source := (ls.flatMap fun l => Text.dropLineEnd l ++ ['\n']) ++ s.source } := by
  induction ls with
  | nil => cases h : ofLines ms <;> simp [Except.map, h]
  | cons l ls ih =>
    have hl := h l (List.mem_cons_self ..)
    have ih := ih fun m hm => h m (List.mem_cons_of_mem _ hm)
    simp only [List.cons_append, ofLines, hl.1, hl.2, Bool.false_eq_true, if_false, ih]
    cases ofLines ms <;> simp [Except.map]

end Sections

end DiagCheck
