import DiagCheck.Text.Point
import DiagCheck.Yaml.Cursor

/-!
# Scalars inside lines

Quoted and plain scalars may run over several lines. A single break between two lines becomes a
space; of several, the first is dropped. Blanks around breaks do not count.
-/

namespace DiagCheck.Yaml

/-- What a break and the further breaks behind it become. -/
def foldBreaks (first : Char) (further : Text) : Text :=
  if first ≠ '\n' then first :: further else if further = [] then [' '] else further

namespace Quoted

/-- The characters that a backslash stands before, with what they stand for. -/
def escapes : List (Char × Char) := [
  ('0', '\x00'), ('a', '\x07'), ('b', '\x08'), ('t', '\t'), ('\t', '\t'), ('n', '\n'),
  ('v', '\x0b'), ('f', '\x0c'), ('r', '\r'), ('e', '\x1b'), (' ', ' '), ('\x22', '\x22'),
  ('\\', '\\'), ('/', '/'), ('N', '\x85'), ('_', '\xa0'), ('L', '\u2028'), ('P', '\u2029')]

/-- The characters that introduce a code, with its number of digits. -/
def codeEscapes : List (Char × Nat) := [('x', 2), ('u', 4), ('U', 8)]

def hexValue? (c : Char) : Option Nat :=
  if c.isDigit then some (c.toNat - '0'.toNat)
  else if 'a' ≤ c ∧ c ≤ 'f' then some (c.toNat - 'a'.toNat + 10)
  else if 'A' ≤ c ∧ c ≤ 'F' then some (c.toNat - 'A'.toNat + 10)
  else none

/-- The number that `n` hexadecimal digits denote behind those that denote `value`. -/
def hexNumber (value : Nat) : Nat → Text → Except Fault Nat
  | 0, _ => .ok value
  | _ + 1, [] => .error .unfinished
  | n + 1, c :: t => match hexValue? c with
    | some d => hexNumber (value * 16 + d) n t
    | none => .error .malformed

def point (number : Nat) : Except Fault Point :=
  match Point.ofCode? number with
  | some p => .ok p
  | none => .error (.noCodePoint number)

/-- The further breaks behind a break, up to the next character of the scalar. -/
def breaks : Nat → Cursor → Except Fault (Text × Cursor)
  | 0, _ => .error .malformed
  | fuel + 1, c =>
    c.readDocumentMark.bind fun mark =>
      if mark then .error .malformed
      else match (c.skipWhile isSpace).break? with
        | none => .ok ([], c.skipWhile isSpace)
        | some (b, c) => (breaks fuel c).map fun (t, c) => (b :: t, c)

def breaksFrom (c : Cursor) : Except Fault (Text × Cursor) := breaks (c.rest.length + 1) c

/-- What a backslash and the characters behind it stand for; the cursor is behind the backslash. -/
def escape (c : Cursor) : Except Fault (Points × Cursor) :=
  match c.peek with
  | none => .error .unfinished
  | some e =>
    match escapes.lookup e, codeEscapes.lookup e with
    | some d, _ => .ok ([.char d], c.step)
    | none, some n => do
      let number ← hexNumber 0 n c.step.rest
      let p ← point number
      return ([p], c.step.skip n)
    | none, none => match c.break? with
      | some (_, c) => (breaksFrom c).map fun (t, c) => (t.points, c)
      | none => .error .malformed

/-- A quoted scalar from behind its opening mark to behind its closing one. -/
def body (double : Bool) (mark : Char) : Nat → Cursor → Except Fault (Points × Cursor)
  | 0, _ => .error .malformed
  | fuel + 1, c =>
    let more := fun (t : Points) (c : Cursor) =>
      (body double mark fuel c).map fun (u, c) => (t ++ u, c)
    match c.rest with
    | [] => .error .unfinished
    | d :: rest =>
      if d = mark then
        if !double && rest.head? = some mark then more [.char mark] (c.skip 2)
        else .ok ([], c.step)
      else if double && d = '\\' then (escape c.step).bind fun (t, c) => more t c
      else if isSpace d || isBreak d then
        let blanks := c.rest.takeWhile isSpace
        match (c.skip blanks.length).break? with
        | some (b, c) => (breaksFrom c).bind fun (t, c) => more (foldBreaks b t).points c
        | none => more (Text.points blanks) (c.skip blanks.length)
      else more [.char d] c.step

def scan (double : Bool) (c : Cursor) : Except Fault (Points × Cursor) :=
  body double (if double then '\x22' else '\x27') (c.rest.length + 1) c.step

end Quoted

namespace Plain

def flowIndicators : Text := [',', '[', ']', '\x7b', '\x7d']

/-- A colon in front of `next` is an indicator and no part of a plain scalar. -/
def endsKey (inFlow : Bool) (next : Option Char) : Bool :=
  isGap next || (inFlow && next.any fun d => d ∈ flowIndicators)

/-- How many characters a plain scalar has up to the next gap or indicator. -/
def extent (inFlow : Bool) : Text → Nat
  | [] => 0
  | c :: rest =>
    if isGap (some c) then 0
    else if c = ':' && endsKey inFlow rest.head? then 0
    else if inFlow && (c = '?' || c ∈ flowIndicators) then 0
    else extent inFlow rest + 1

structure Gap where
  /-- What the gap becomes inside the scalar; nothing if the scalar ends at the gap. -/
  text : Text
  cursor : Cursor
  crossesLine : Bool

/-- Further breaks and spaces behind a break; nothing is kept before a mark between documents. -/
def breaks : Nat → Cursor → Except Fault (Option Text × Cursor)
  | 0, c => .ok (none, c)
  | fuel + 1, c =>
    c.readDocumentMark.bind fun mark =>
      if mark then .ok (none, c)
      else match (c.skipWhile (· == ' ')).break? with
        | none => .ok (some [], c.skipWhile (· == ' '))
        | some (b, c) => (breaks fuel c).map fun (t, c) => (t.map (b :: ·), c)

/-- The gap behind a part of a plain scalar. -/
def gap (c : Cursor) : Except Fault Gap :=
  let blanks := c.rest.takeWhile (· == ' ')
  match (c.skip blanks.length).break? with
  | none => .ok ⟨blanks, c.skip blanks.length, false⟩
  | some (b, c) => (breaks (c.rest.length + 1) c).map fun
    | (none, c) => ⟨[], c, true⟩
    | (some t, c) => ⟨foldBreaks b t, c, true⟩

structure Result where
  text : Text
  cursor : Cursor
  endsLine : Bool

/-- The extent of the part at the cursor, if its end is in view. Behind a colon one more character
tells whether it ends the part. -/
def readExtent (inFlow : Bool) (c : Cursor) : Except Fault Nat :=
  let n := extent inFlow c.rest
  (c.await (if c.peekAt n = some ':' then n + 2 else n + 1)).map fun _ => n

/-- The part of `n` characters at the cursor and those behind it; further lines are indented by at
least `indent`. -/
def parts (inFlow : Bool) (indent : Nat) : Nat → Nat → Cursor → Except Fault Result
  | 0, _, c => .ok ⟨[], c, false⟩
  | fuel + 1, n, c => do
    let part := c.rest.take n
    let g ← gap (c.skip n)
    g.cursor.await 1
    let last : Result := ⟨part, g.cursor, g.crossesLine⟩
    if g.text = [] || g.cursor.peek = some '#' || (!inFlow && g.cursor.column < indent) then
      return last
    match ← readExtent inFlow g.cursor with
    | 0 => return last
    | m => do
      let r ← parts inFlow indent fuel m g.cursor
      return { r with text := part ++ g.text ++ r.text }

def scan (inFlow : Bool) (indent : Nat) (c : Cursor) : Except Fault Result :=
  (readExtent inFlow c).bind fun n => parts inFlow indent (c.rest.length + 1) n c

end Plain

end DiagCheck.Yaml
