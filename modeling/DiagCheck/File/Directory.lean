import DiagCheck.Text.Utf8

/-!
# Directories

A run takes place in one directory of files. A path leads to one of them through any number of
`.` steps and repeated slashes. The directories around it have no files and no other directories.
-/

namespace DiagCheck

/-- Files by name. The first of two entries with one name counts. -/
abbrev Directory := List (Text × Bytes)

namespace Directory

inductive Obstacle where
  | missing
  | isDirectory
  | notDirectory
  | nameTooLong
  /-- No path has a character of code zero. -/
  | nulCharacter
  deriving DecidableEq, Repr

def nameLimit : Nat := 255

def pathLimit : Nat := 4095

def stays (step : Text) : Bool := step = [] || step = ['.']

def isTooLong (step : Text) : Bool := nameLimit < (Utf8.encode step).length

/-- What stands in the way of steps that begin outside the directory. -/
def outside : List Text → Obstacle
  | [] => .isDirectory
  | step :: steps =>
    if stays step || step = ['.', '.'] then outside steps
    else if isTooLong step then .nameTooLong
    else .missing

/-- Follows the steps of a path to the name of a file. -/
def follow (d : Directory) : List Text → Except Obstacle Text
  | [] => .error .isDirectory
  | step :: steps =>
    if stays step then follow d steps
    else if step = ['.', '.'] then .error (outside steps)
    else if isTooLong step then .error .nameTooLong
    else if (d.lookup step).isNone then .error .missing
    else if steps = [] then .ok step
    else .error .notDirectory

def locate (d : Directory) (path : Text) : Except Obstacle Text :=
  if '\x00' ∈ path then .error .nulCharacter
  else if pathLimit < (Utf8.encode path).length then .error .nameTooLong
  else match path with
    | [] => .error .missing
    | '/' :: rest => .error (outside (Text.pieces '/' rest))
    | path => d.follow (Text.pieces '/' path)

/-- The only name on a path that does not begin at the root. -/
def name? (path : Text) : Option Text :=
  if path.head? = some '/' then none
  else match (Text.pieces '/' path).filter (!stays ·) with
    | [name] => some name
    | _ => none

def read (d : Directory) (path : Text) : Except Obstacle Bytes :=
  (d.locate path).bind fun name => match d.lookup name with
    | some bytes => .ok bytes
    | none => .error .missing

def replace (d : Directory) (name : Text) (bytes : Bytes) : Directory :=
  d.map fun (n, old) => if n = name then (n, bytes) else (n, old)

/-- The name of the file that comes into being when the path is written to: its last step, and
the only one that leads anywhere. -/
def newName? (d : Directory) (path : Text) : Option Text :=
  match d.locate path with
  | .error .missing =>
    (name? path).filter fun name => (Text.pieces '/' path).getLast? == some name
  | _ => none

/-- Writes to the file that a path leads to, or to a new one. -/
def write (d : Directory) (path : Text) (bytes : Bytes) : Directory :=
  match d.locate path with
  | .ok name => d.replace name bytes
  | .error _ => match d.newName? path with
    | some name => d ++ [(name, bytes)]
    | none => d

theorem lookup_replace (d : Directory) (name other : Text) (bytes : Bytes) :
    (d.replace name bytes).lookup other =
      if other = name then (d.lookup other).map fun _ => bytes else d.lookup other := by
  induction d with
  | nil => simp [replace]
  | cons e d ih =>
    obtain ⟨n, old⟩ := e
    simp only [replace] at ih
    by_cases hn : n = name
    · by_cases ho : other = n
      · simp [replace, hn, ho]
      · have ho' : (other == n) = false := beq_eq_false_iff_ne.mpr ho
        simp only [replace, List.map_cons, hn, if_true, List.lookup_cons, hn ▸ ho', ih]
    · by_cases ho : other = n
      · subst ho
        simp [replace, hn]
      · have ho' : (other == n) = false := beq_eq_false_iff_ne.mpr ho
        simp only [replace, List.map_cons, hn, if_false, List.lookup_cons, ho', ih]

end Directory

end DiagCheck
