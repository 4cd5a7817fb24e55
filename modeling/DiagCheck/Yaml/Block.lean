import DiagCheck.Yaml.Cursor

/-!
# Scalars of whole lines

A block scalar is made of the indented lines behind its header. A literal one keeps its line
breaks, in a folded one a single break between two lines that begin with no blank becomes a
space. The header says what becomes of the breaks at the end.
-/

namespace DiagCheck.Yaml.Block

/-- What becomes of the breaks at the end of the scalar. -/
inductive Chomping where
  | clip
  | strip
  | keep
  deriving DecidableEq, Repr

structure Header where
  chomping : Chomping := .clip
  /-- How far the lines are indented, if the header says so. -/
  increment : Option Nat := none

def chomping? : Option Char → Option Chomping
  | some '+' => some .keep
  | some '-' => some .strip
  | _ => none

def increment? : Option Char → Option Nat
  | some c => if '1' ≤ c ∧ c ≤ '9' then some (c.toNat - '0'.toNat) else none
  | none => none

/-- The two indicators of a header, in either order. -/
def header (c : Cursor) : Header × Cursor :=
  match chomping? c.peek, increment? c.peek with
  | some chomping, _ => match increment? c.step.peek with
    | some n => (⟨chomping, some n⟩, c.step.step)
    | none => (⟨chomping, none⟩, c.step)
  | none, some n => match chomping? c.step.peek with
    | some chomping => (⟨chomping, some n⟩, c.step.step)
    | none => (⟨.clip, some n⟩, c.step)
  | none, none => ({}, c)

/-- The end of the header's line, which may hold a comment behind a space. -/
def headerEnd (c : Cursor) : Except Fault Cursor :=
  if c.peek.any fun d => d != ' ' && !isBreak d then .error .malformed
  else
    let c := c.skipWhile (· == ' ')
    let c := if c.peek = some '#' then c.skipWhile fun d => !isBreak d else c
    match c.peek, c.break? with
    | none, _ => .ok c
    | some _, some (_, c) => .ok c
    | some _, none => .error .malformed

def spaceRuns : Text → List Nat
  | [] => [0]
  | c :: rest => match spaceRuns rest with
    | [] => []
    | n :: ns => if c = ' ' then (n + 1) :: ns else 0 :: n :: ns

/-- Leading empty lines and the deepest indentation among them and the first line. -/
def detectIndent (c : Cursor) : Text × Nat × Cursor :=
  let run := c.rest.takeWhile fun d => d == ' ' || isBreak d
  ((run.filter isBreak).map breakValue, (spaceRuns run).foldl max 0, c.skip run.length)

def skipIndent (indent : Nat) (c : Cursor) : Cursor :=
  c.skip (min (indent - c.column) (c.rest.takeWhile (· == ' ')).length)

/-- The breaks of empty lines, and the place behind the indentation of the line after them. -/
def breaks (indent : Nat) : Nat → Cursor → Text × Cursor
  | 0, c => ([], c)
  | fuel + 1, c => match (skipIndent indent c).break? with
    | none => ([], skipIndent indent c)
    | some (b, c) => match breaks indent fuel c with
      | (t, c) => (b :: t, c)

structure Body where
  text : Text
  /-- The break behind the last line, and those of the empty lines after it. -/
  lastBreak : Text
  trailing : Text
  cursor : Cursor

def startsBlank (c : Cursor) : Bool := c.peek.any isSpace

/-- The lines of the scalar; `before` are the breaks of the empty lines in front. -/
def lines (folded : Bool) (indent : Nat) : Nat → Text → Cursor → Body
  | 0, before, c => ⟨[], [], before, c⟩
  | fuel + 1, before, c =>
    let line := c.rest.takeWhile fun d => !isBreak d
    let behind := c.skip line.length
    let (lastBreak, next) := match behind.break? with
      | some (b, next) => ([b], next)
      | none => ([], behind)
    let (after, next) := breaks indent (next.rest.length + 1) next
    if next.column = indent && next.rest != [] then
      let joint :=
        if folded && lastBreak = ['\n'] && !startsBlank c && !startsBlank next then
          if after = [] then [' '] else []
        else lastBreak
      let body := lines folded indent fuel after next
      { body with text := before ++ line ++ joint ++ body.text }
    else ⟨before ++ line, lastBreak, after, next⟩

def Body.chomp (b : Body) : Chomping → Text
  | .strip => b.text
  | .clip => b.text ++ b.lastBreak
  | .keep => b.text ++ b.lastBreak ++ b.trailing

/-- The block scalar at the cursor, which is at its indicator. Its lines are indented by at least
`least`. -/
def scan (folded : Bool) (least : Nat) (c : Cursor) : Except Fault (Text × Cursor) := do
  let (h, c) := header c.step
  let c ← headerEnd c
  let (before, indent, c) := match h.increment with
    | some n => match breaks (least + n - 1) (c.rest.length + 1) c with
      | (before, c) => (before, least + n - 1, c)
    | none => match detectIndent c with
      | (before, deepest, c) => (before, max least deepest, c)
  let body := if c.column = indent && c.rest != [] then
      lines folded indent (c.rest.length + 1) before c
    else ⟨[], [], before, c⟩
  return (body.chomp h.chomping, body.cursor)

end DiagCheck.Yaml.Block
