import DiagCheck.Text.Utf8

/-!
# Places in a YAML text

A cursor is the rest of a text with the number of characters, lines and columns in front of it.
The rest may be all that can be read, so what is concluded must not need more than is in view.
Line breaks are the newline, the next-line character and the two Unicode separators; carriage
returns have been replaced before a text gets here.
-/

namespace DiagCheck.Yaml

inductive Fault where
  | malformed
  | unfinished
  /-- Bytes encode no text; positions are counted from `origin`. -/
  | notEncoded (origin : Nat) (d : Utf8.Defect)
  | numeralTooLong (digits : Nat)
  /-- A mark of the base stands in front of underscores alone. -/
  | noDigits (base : Nat)
  /-- A number with a point has a place whose weight is beyond all such numbers. -/
  | weightTooLarge
  /-- An escape names a number that is no code point. -/
  | noCodePoint (number : Nat)
  deriving DecidableEq, Repr

def byteOrderMark : Char := '\uFEFF'

def isBreak (c : Char) : Bool := c == '\n' || c == '\x85' || c == '\u2028' || c == '\u2029'

/-- How a break is kept: the next-line character counts as a newline. -/
def breakValue (c : Char) : Char := if c = '\x85' then '\n' else c

def isSpace (c : Char) : Bool := c == ' ' || c == '\t'

def isGap : Option Char → Bool
  | none => true
  | some c => isSpace c || isBreak c

structure Cursor where
  rest : Text
  index : Nat := 0
  line : Nat := 0
  column : Nat := 0
  /-- Why the text cannot be read beyond the rest, unless it ends there. -/
  beyond : Option Fault := none
  deriving DecidableEq, Repr

namespace Cursor

/-- `n` characters are needed, or the end of the text if it comes before. -/
def await (n : Nat) (c : Cursor) : Except Fault Unit :=
  match c.beyond with
  | some f => if (c.rest.take n).length < n then .error f else .ok ()
  | none => .ok ()

def peek (c : Cursor) : Option Char := c.rest.head?

def peekAt (c : Cursor) (n : Nat) : Option Char := c.rest[n]?

def step (c : Cursor) : Cursor :=
  match c.rest with
  | [] => c
  | d :: rest =>
    if isBreak d then { c with rest, index := c.index + 1, line := c.line + 1, column := 0 }
    else { c with
      rest
      index := c.index + 1
      column := if d = byteOrderMark then c.column else c.column + 1 }

def skip : Nat → Cursor → Cursor
  | 0, c => c
  | n + 1, c => skip n c.step

def skipWhile (p : Char → Bool) (c : Cursor) : Cursor := c.skip (c.rest.takeWhile p).length

def break? (c : Cursor) : Option (Char × Cursor) :=
  match c.rest with
  | d :: _ => if isBreak d then some (breakValue d, c.step) else none
  | [] => none

def atMark (mark : Char) (c : Cursor) : Bool :=
  c.rest.take 3 == [mark, mark, mark] && isGap (c.peekAt 3)

def atDocumentMark (c : Cursor) : Bool := c.atMark '-' || c.atMark '.'

/-- How many characters tell whether a mark between documents comes next. -/
def markView (c : Cursor) : Nat :=
  if c.rest.take 3 == ['-', '-', '-'] || c.rest.take 3 == ['.', '.', '.'] then 4 else 3

/-- Whether a mark between documents comes next, if that is in view. -/
def readDocumentMark (c : Cursor) : Except Fault Bool :=
  (c.await c.markView).map fun _ => c.atDocumentMark

end Cursor

end DiagCheck.Yaml
