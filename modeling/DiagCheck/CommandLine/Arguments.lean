import DiagCheck.Text.Digit
import DiagCheck.Text.Quoted

/-!
# Arguments of a command line

A command line names files and options. A long option may be shortened as far as it stays
unique, short options may be written in one word, and behind `--` every word is a file. The
files have to stand together: once an option follows them, further ones are not accepted.
-/

namespace DiagCheck.CommandLine

inductive Choice where
  | help
  | config
  | pipeline
  | evmVersion
  | errorRecovery
  | noColor
  | accept
  | verbose
  deriving DecidableEq, Repr

def spellings : List (Text × Choice) := [
  ("-h".toList, .help), ("--help".toList, .help), ("--config".toList, .config),
  ("--pipeline".toList, .pipeline), ("--evm-version".toList, .evmVersion),
  ("--error-recovery".toList, .errorRecovery), ("--no-color".toList, .noColor),
  ("--accept".toList, .accept), ("-v".toList, .verbose), ("--verbose".toList, .verbose)]

namespace Choice

def takesValue : Choice → Bool
  | config | pipeline | evmVersion => true
  | help | errorRecovery | noColor | accept | verbose => false

/-- How messages name the option: by all its spellings. -/
def label (c : Choice) : Text :=
  Text.join ['/'] ((spellings.filter fun s => s.2 = c).map (·.1))

end Choice

inductive Fault where
  | ambiguous (word : Text) (matching : List Text)
  | valueMissing (c : Choice)
  | valueUnused (c : Choice) (value : Text)
  | filesMissing
  | unrecognized (words : List Text)
  deriving DecidableEq, Repr

def Fault.message : Fault → Text
  | ambiguous word matching =>
    "ambiguous option: ".toList ++ word ++ " could match ".toList ++ Text.join [',', ' '] matching
  | valueMissing c => "argument ".toList ++ c.label ++ ": expected one argument".toList
  | valueUnused c value =>
    "argument ".toList ++ c.label ++ ": ignored explicit argument ".toList ++ Text.quoted value
  | filesMissing => "the following arguments are required: files".toList
  | unrecognized words => "unrecognized arguments: ".toList ++ Text.join [' '] words

inductive Word where
  | plain (t : Text)
  | separator
  /-- An option, whether it is spelled with one dash, and the value in the same word. -/
  | choice (c : Choice) (short : Bool) (value : Option Text)
  | unknown (t : Text)
  deriving DecidableEq, Repr

def separatorWord : Text := ['-', '-']

/-- Digits behind a minus sign, perhaps with a point among them or in front, are no option. One
newline may follow. -/
def isNegativeNumeral (t : Text) : Bool :=
  match if t.getLast? = some '\n' then t.dropLast else t with
  | '-' :: u =>
    (u != [] && u.all isDecimal) || match Text.cut? '.' u with
      | some (whole, fraction) => whole.all isDecimal && fraction != [] && fraction.all isDecimal
      | none => false
  | _ => false

/-- What a word is that begins with a dash and is no option. -/
def Word.ofOther (t : Text) : Word :=
  if isNegativeNumeral t || ' ' ∈ t then .plain t else .unknown t

/-- A word that begins with two dashes and spells no option in full. -/
def Word.ofLong (t name : Text) (value : Option Text) : Except Fault Word :=
  match spellings.filter fun s => name.isPrefixOf s.1 with
  | [] => .ok (.ofOther t)
  | [(_, c)] => .ok (.choice c false value)
  | several => .error (.ambiguous t (several.map (·.1)))

/-- A word that begins with one dash and spells no option in full. -/
def Word.ofShort (t : Text) : Word :=
  match spellings.lookup (t.take 2) with
  | some c => .choice c true (some (t.drop 2))
  | none => .ofOther t

def Word.ofText (t : Text) : Except Fault Word :=
  match t with
  | '-' :: d :: _ =>
    let (name, value) := match Text.cut? '=' t with
      | some (name, value) => (name, some value)
      | none => (t, none)
    match spellings.lookup name with
    | some c => .ok (.choice c (d != '-') value)
    | none => if d = '-' then Word.ofLong t name value else .ok (.ofShort t)
  | t => .ok (.plain t)

def words : List Text → Except Fault (List Word)
  | [] => .ok []
  | t :: ts =>
    if t = separatorWord then .ok (.separator :: ts.map .plain)
    else do
      let w ← Word.ofText t
      return w :: (← words ts)

structure Arguments where
  files : List Text := []
  /-- Empty if the option is not given; an empty value counts as none. -/
  config : Text := []
  pipeline : Text := []
  evmVersion : Text := []
  errorRecovery : Bool := false
  noColor : Bool := false
  accept : Bool := false
  verbose : Bool := false
  deriving DecidableEq, Repr

namespace Arguments

def give (c : Choice) (value : Text) (a : Arguments) : Arguments :=
  let value := if value = separatorWord then [] else value
  match c with
  | .config => { a with config := value }
  | .pipeline => { a with pipeline := value }
  | .evmVersion => { a with evmVersion := value }
  | _ => a

def turnOn (a : Arguments) : Choice → Arguments
  | .errorRecovery => { a with errorRecovery := true }
  | .noColor => { a with noColor := true }
  | .accept => { a with accept := true }
  | .verbose => { a with verbose := true }
  | _ => a

end Arguments

/-- Whether the files are still to come, are coming, or have come. -/
inductive Phase where
  | before
  | within
  | behind
  deriving DecidableEq, Repr

structure Reading where
  arguments : Arguments := {}
  phase : Phase := .before
  extras : List Text := []

inductive Stop where
  | help
  | fault (f : Fault)
  deriving DecidableEq, Repr

namespace Reading

def addExtra (t : Text) (r : Reading) : Reading := { r with extras := r.extras ++ [t] }

def addFile (t : Text) (r : Reading) : Reading :=
  if r.phase = .behind then r.addExtra t
  else { r with
    phase := .within
    arguments := { r.arguments with files := r.arguments.files ++ [t] } }

def separate (r : Reading) : Reading :=
  if r.phase = .behind then r.addExtra separatorWord else r

/-- An option ends the files. -/
def meetOption (r : Reading) : Reading :=
  { r with phase := if r.phase = .before then .before else .behind }

def give (c : Choice) (value : Text) (r : Reading) : Reading :=
  { r with arguments := r.arguments.give c value }

def turnOn (cs : List Choice) (r : Reading) : Reading :=
  { r with arguments := cs.foldl Arguments.turnOn r.arguments }

/-- The options in one word: `c`, and one more for each letter behind it. -/
def cluster (c : Choice) : Text → Except Fault (List Choice)
  | [] => .ok [c]
  | d :: t => match spellings.lookup ['-', d] with
    | some next => (cluster next t).map (c :: ·)
    | none => .error (.valueUnused c (d :: t))

/-- The options of a word whose first option takes no value. -/
def flags (c : Choice) (short : Bool) : Option Text → Except Fault (List Choice)
  | none => .ok [c]
  | some t => if short && t != [] then cluster c t else .error (.valueUnused c t)

/-- Reads the words in order. Help ends the reading where it is asked for. -/
def read (r : Reading) : List Word → Except Stop Reading
  | [] => .ok r
  | .plain t :: ws => read (r.addFile t) ws
  | .separator :: ws => read r.separate ws
  | .unknown t :: ws => read (r.meetOption.addExtra t) ws
  | .choice c short value :: ws =>
    if c.takesValue then
      match value, ws with
      | some v, ws => read (r.meetOption.give c v) ws
      | none, .plain v :: ws => read (r.meetOption.give c v) ws
      | none, _ => .error (.fault (.valueMissing c))
    else
      match flags c short value with
      | .error f => .error (.fault f)
      | .ok cs => if .help ∈ cs then .error .help else read (r.meetOption.turnOn cs) ws

/-- At least one file is needed, and no word may be left over. -/
def finish (r : Reading) : Except Stop Arguments :=
  if r.phase = .before then .error (.fault .filesMissing)
  else if r.extras ≠ [] then .error (.fault (.unrecognized r.extras))
  else .ok r.arguments

end Reading

def Arguments.ofWords (argv : List Text) : Except Stop Arguments :=
  match words argv with
  | .error f => .error (.fault f)
  | .ok ws => (Reading.read {} ws).bind Reading.finish

end DiagCheck.CommandLine
