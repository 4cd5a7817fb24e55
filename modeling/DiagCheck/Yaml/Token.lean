import DiagCheck.Yaml.Block
import DiagCheck.Yaml.Flow
import DiagCheck.Yaml.Input

/-!
# Tokens

A YAML text is cut into scalars and marks. Indentation gives marks of its own: where a block
collection begins and where it ends. A scalar or bracket turns out to be a key only when a colon
follows it, so its place is remembered, and the mark of a key is put in front of it later. Where
the text is at fault the tokens end with the fault, which matters only to who gets that far.
-/

namespace DiagCheck.Yaml

inductive Token where
  | documentStart
  | documentEnd
  | sequenceStart
  | mappingStart
  | blockEnd
  | bracket
  | bracketEnd
  | brace
  | braceEnd
  | entry
  | comma
  | key
  | value
  /-- A scalar without marks, whose form says what it denotes. -/
  | plain (t : Text)
  /-- A scalar that denotes its text. -/
  | text (ps : Points)
  /-- The fault behind the last token that can be told for certain. -/
  | cut (f : Fault)
  deriving DecidableEq, Repr

structure Candidate where
  position : Nat
  /-- In a block mapping a line that begins where the keys begin must begin with a key. -/
  required : Bool
  cursor : Cursor

/-- A key ends on its line, and within this many characters. -/
def Candidate.maxLength : Nat := 1024

def Candidate.isLive (k : Candidate) (c : Cursor) : Bool :=
  k.cursor.line = c.line && c.index - k.cursor.index ≤ maxLength

structure Reader where
  cursor : Cursor
  tokens : List Token := []
  /-- The columns of the open block collections, the innermost first. -/
  indents : List Nat := []
  candidate : Option Candidate := none
  /-- The candidates outside each open bracket, the innermost bracket first. -/
  outer : List (Option Candidate) := []
  allowKey : Bool := true

namespace Reader

def inFlow (r : Reader) : Bool := !r.outer.isEmpty

/-- Nothing is concluded before `n` characters are in view, if the text does not end. -/
def await (n : Nat) (r : Reader) : Except Fault Reader := (r.cursor.await n).map fun _ => r

/-- Takes a token of `n` characters. What comes behind it must be in view. -/
def take (t : Token) (n : Nat) (r : Reader) : Except Fault Reader :=
  (r.await (n + 1)).map fun r => { r with tokens := r.tokens ++ [t], cursor := r.cursor.skip n }

/-- Forgets the candidate, which must not be needed. -/
def forget (r : Reader) : Except Fault Reader :=
  if r.candidate.any (·.required) then .error .malformed else .ok { r with candidate := none }

def remember (r : Reader) : Except Fault Reader :=
  if r.allowKey then
    r.forget.map fun r => { r with candidate := some {
      position := r.tokens.length
      required := !r.inFlow && r.indents.head? == some r.cursor.column
      cursor := r.cursor } }
  else .ok r

/-- The candidate unless the cursor has gone too far for it. -/
def renew (c : Cursor) : Option Candidate → Except Fault (Option Candidate)
  | none => .ok none
  | some k =>
    if k.isLive c then .ok (some k) else if k.required then .error .malformed else .ok none

/-- Opens a block collection at a column in front of the token at `position`, unless the
innermost one is indented as far. -/
def openBlock (start : Token) (column position : Nat) (r : Reader) : Reader :=
  if !r.inFlow && r.indents.head?.all (· < column) then
    { r with indents := column :: r.indents, tokens := r.tokens.insertIdx position start }
  else r

/-- Closes the innermost block collections whose columns satisfy `p`. -/
def closeBlocks (p : Nat → Bool) (r : Reader) : Reader :=
  if r.inFlow then r
  else { r with
    indents := r.indents.dropWhile p
    tokens := r.tokens ++ (r.indents.takeWhile p).map fun _ => .blockEnd }

/-- Skips spaces, comments and breaks. Behind a break outside brackets a key may begin. -/
def skipGap : Nat → Reader → Reader
  | 0, r => r
  | fuel + 1, r =>
    let c := r.cursor.skipWhile (· == ' ')
    let c := if c.peek = some '#' then c.skipWhile fun d => !isBreak d else c
    match c.break? with
    | none => { r with cursor := c }
    | some (_, c) => skipGap fuel { r with cursor := c, allowKey := r.allowKey || !r.inFlow }

def skipOrderMark (r : Reader) : Reader :=
  if r.cursor.index = 0 ∧ r.cursor.peek = some byteOrderMark then
    { r with cursor := r.cursor.step }
  else r

def renewAll (r : Reader) : Except Fault Reader := do
  let candidate ← renew r.cursor r.candidate
  let outer ← r.outer.mapM (renew r.cursor)
  return { r with candidate, outer }

/-- Goes to the next token and draws the conclusions from its place. -/
def settle (r : Reader) : Except Fault Reader := do
  let r ← r.renewAll
  let r := r.skipOrderMark
  let r ← (r.skipGap (r.cursor.rest.length + 1)).await 1
  let r ← r.renewAll
  return r.closeBlocks (r.cursor.column < ·)

def documentMark (t : Token) (r : Reader) : Except Fault Reader := do
  let r ← (r.closeBlocks fun _ => true).forget
  { r with allowKey := false }.take t 3

def openFlow (t : Token) (r : Reader) : Except Fault Reader := do
  let r ← r.remember
  { r with outer := r.candidate :: r.outer, candidate := none, allowKey := true }.take t 1

def closeFlow (t : Token) (r : Reader) : Except Fault Reader := do
  let r ← (← r.forget).take t 1
  match r.outer with
  | [] => .error .malformed
  | candidate :: outer => return { r with candidate, outer, allowKey := false }

def comma (r : Reader) : Except Fault Reader := do
  let r ← r.forget
  { r with allowKey := true }.take .comma 1

/-- Outside brackets a mark may stand only where a key may begin. -/
def checkPlace (r : Reader) : Except Fault Unit :=
  if r.inFlow || r.allowKey then .ok () else .error .malformed

def entry (r : Reader) : Except Fault Reader := do
  r.checkPlace
  let r ← (r.openBlock .sequenceStart r.cursor.column r.tokens.length).forget
  { r with allowKey := true }.take .entry 1

def key (r : Reader) : Except Fault Reader := do
  r.checkPlace
  let r ← (r.openBlock .mappingStart r.cursor.column r.tokens.length).forget
  { r with allowKey := !r.inFlow }.take .key 1

/-- A colon makes a key of the candidate, or else stands behind a key that has a mark. -/
def value (r : Reader) : Except Fault Reader :=
  match r.candidate with
  | some k =>
    let r := { r with
      candidate := none
      allowKey := false
      tokens := r.tokens.insertIdx k.position .key }
    (r.openBlock .mappingStart k.cursor.column k.position).take .value 1
  | none => do
    r.checkPlace
    let r := r.openBlock .mappingStart r.cursor.column r.tokens.length
    { r with allowKey := !r.inFlow }.take .value 1

/-- The least indentation of what belongs to the innermost block collection. -/
def leastIndent (r : Reader) : Nat :=
  match r.indents with
  | [] => 0
  | n :: _ => n + 1

/-- Puts a scalar behind the tokens. What comes behind it must be in view. -/
def scalar (t : Token) (allowKey : Bool) (cursor : Cursor) (r : Reader) : Except Fault Reader :=
  { r with tokens := r.tokens ++ [t], cursor, allowKey }.await 1

def block (folded : Bool) (r : Reader) : Except Fault Reader := do
  let r ← r.forget
  let (t, c) ← Block.scan folded (max 1 r.leastIndent) r.cursor
  r.scalar (.text t.points) true c

def quoted (double : Bool) (r : Reader) : Except Fault Reader := do
  let r ← r.remember
  let (ps, c) ← Quoted.scan double r.cursor
  r.scalar (.text ps) false c

def plain (r : Reader) : Except Fault Reader := do
  let r ← r.remember
  let s ← Plain.scan r.inFlow r.leastIndent r.cursor
  r.scalar (.plain s.text) s.endsLine s.cursor

/-- The characters that have a meaning of their own at the beginning of a token. -/
def indicators : Text := "-?:,[]#&*!|>%@".toList ++ ['\x7b', '\x7d', '\x27', '\x22', '\x60']

/-- A plain scalar can begin with an indicator when `next` follows it. -/
def startsPlain (inFlow : Bool) (d : Char) (next : Option Char) : Bool :=
  !isGap next && (d == '-' || (!inFlow && (d == '?' || d == ':')))

/-- Takes the token at the cursor, which begins with the indicator `d` and is none of the marks
that are alone of their kind. One more character tells what it is. -/
def indicated (d : Char) (r : Reader) : Except Fault Reader := do
  let r ← r.await 2
  let next := r.cursor.peekAt 1
  if d = '-' && isGap next then r.entry
  else if d = '?' && isGap next then r.key
  else if d = ':' && isGap next then r.value
  else if startsPlain r.inFlow d next then r.plain
  else .error .malformed

/-- A mark between documents comes next. Only at the beginning of a line it is looked for. -/
def readMark (mark : Char) (r : Reader) : Except Fault Bool :=
  if r.cursor.column = 0 && r.cursor.peek = some mark then
    (r.cursor.await r.cursor.markView).map fun _ => r.cursor.atMark mark
  else .ok false

/-- Takes the token at the cursor, which begins with `d`. -/
def token (d : Char) (r : Reader) : Except Fault Reader := do
  if ← r.readMark '-' then r.documentMark .documentStart
  else if ← r.readMark '.' then r.documentMark .documentEnd
  else if d = '[' then r.openFlow .bracket
  else if d = '\x7b' then r.openFlow .brace
  else if d = ']' then r.closeFlow .bracketEnd
  else if d = '\x7d' then r.closeFlow .braceEnd
  else if d = ',' then r.comma
  else if d = '?' && r.inFlow then r.key
  else if d = ':' && r.inFlow then r.value
  else if d = '|' && !r.inFlow then r.block false
  else if d = '>' && !r.inFlow then r.block true
  else if d = '\x27' then r.quoted false
  else if d = '\x22' then r.quoted true
  else if d ∈ indicators || isSpace d then r.indicated d
  else r.plain

/-- The tokens in front of the first place where a key may have begun. -/
def certain (r : Reader) : List Token :=
  let live := ((r.candidate :: r.outer).filterMap id).filter (·.isLive r.cursor)
  r.tokens.take ((live.map (·.position)).foldl min r.tokens.length)

def breakOff (f : Fault) (r : Reader) : List Token := r.certain ++ [.cut f]

def finish (r : Reader) : List Token :=
  match (r.closeBlocks fun _ => true).forget with
  | .ok r => r.tokens
  | .error f => r.breakOff f

/-- The reader behind the next token, unless the text ends. A token that is cut off ends where
the text cannot be read further. -/
def next? (r : Reader) : Except Fault (Option Reader) := do
  let r ← r.settle
  match r.cursor.peek with
  | none => return none
  | some d => match r.token d with
    | .ok s => return some s
    | .error .unfinished => .error (r.cursor.beyond.getD .unfinished)
    | .error f => .error f

/-- Takes all tokens; each has a character at least. -/
def run : Nat → Reader → List Token
  | 0, r => r.breakOff .malformed
  | fuel + 1, r => match r.next? with
    | .ok (some r) => run fuel r
    | .ok none => r.finish
    | .error f => r.breakOff f

end Reader

def Token.ofInput (i : Input) : List Token :=
  Reader.run (i.text.length + 1) { cursor := { rest := i.text, beyond := i.fault } }

end DiagCheck.Yaml
