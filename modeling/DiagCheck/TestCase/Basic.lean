import DiagCheck.TestCase.Fault
import DiagCheck.File.Feed
import DiagCheck.File.Directory

/-!
# Test cases

A test case is a source with the diagnostics expected of it. It is built from the lines of a
test file, and it holds the diagnostics that its one run obtains.
-/

namespace DiagCheck

/-- What a test takes from the run it is part of. -/
structure TestCase.Options where
  evmVersion : Text := "constantinople".toList
  recovery : Bool := false
  deriving DecidableEq, Repr

structure TestCase where
  name : Text
  options : TestCase.Options
  source : Text
  /-- The settings that mean nothing to the test. -/
  settings : Settings
  /-- The settings that were understood, in the form in which they are written back. -/
  understood : Settings := []
  optimise : Bool
  expectations : List Diagnostic
  obtained : List Diagnostic := []
  hasRun : Bool := false
  deriving DecidableEq, Repr

namespace TestCase

/-- The setting that asks for full optimisation. Any value does. -/
def optimiseKey : Text := "optimize-yul".toList

/-- What is understood of the settings of a file. -/
def understoodOf (s : Settings) : Settings :=
  if (s.get? optimiseKey).isSome then [(optimiseKey, "true".toList)] else []

def ofSections (name : Text) (options : Options) (s : Sections) : Except Fault TestCase :=
  match Expectation.readAll s.annotations with
  | .error f => .error (.expectation f)
  | .ok expectations => .ok {
      name, options, expectations
      source := s.source
      settings := s.settings.erase optimiseKey
      understood := understoodOf s.settings
      optimise := (s.settings.get? optimiseKey).isSome }

def ofLines (name : Text) (options : Options) (lines : List Text) : Except Fault TestCase :=
  match Sections.ofLines lines with
  | .error d => .error (.sections d)
  | .ok s => ofSections name options s

def ofText (name : Text) (options : Options) (t : Text) : Except Fault TestCase :=
  ofLines name options (Text.lines t)

/-- A test from the lines of a file. A fault in the lines that are handed out comes before the
fault that the bytes encode no text. -/
def ofFeed (name : Text) (options : Options) (feed : Feed) : Except Fault TestCase :=
  match ofLines name options feed.lines with
  | .error f => .error f
  | .ok t => if feed.broken then .error (.unopenable name) else .ok t

/-- The test in the file that a path leads to. The path is also its name. -/
def ofFile (d : Directory) (path : Text) (options : Options) : Except Fault TestCase :=
  match d.read path with
  | .error .nulCharacter => .error .nulCharacter
  | .error _ => .error (.unopenable path)
  | .ok bytes => ofFeed path options (Feed.ofBytes bytes)

def validate (t : TestCase) : Except Fault Unit :=
  if t.settings = [] then .ok () else .error (.unknownSettings t.settings.keys)

def passed (t : TestCase) : Bool := t.expectations = t.obtained

def job (t : TestCase) : Compiler.Job where
  source := t.source
  evmVersion := t.options.evmVersion
  optimise := t.optimise
  recovery := t.options.recovery

theorem optimiseKey_not_mem_keys {name : Text} {options : Options} {s : Sections} {t : TestCase}
    (h : ofSections name options s = .ok t) : optimiseKey ∉ t.settings.keys := by
  unfold ofSections at h
  split at h
  · cases h
  · cases h
    exact Settings.not_mem_keys_erase s.settings optimiseKey

theorem understood_of_ofSections {name : Text} {options : Options} {s : Sections} {t : TestCase}
    (h : ofSections name options s = .ok t) :
    t.understood = if t.optimise then [(optimiseKey, "true".toList)] else [] := by
  unfold ofSections at h
  split at h
  · cases h
  · cases h
    rfl

theorem ofFeed_encode (name : Text) (options : Options) (t : Text) :
    ofFeed name options (Feed.ofBytes (Utf8.encode t)) = ofText name options t := by
  simp only [ofFeed, Feed.ofBytes_encode, ofText]
  split <;> simp [*]

theorem ofFeed_of_broken {name : Text} {options : Options} {feed : Feed}
    (h : feed.broken = true) (t : TestCase) : ofFeed name options feed ≠ .ok t := by
  unfold ofFeed
  split <;> simp [h]

end TestCase

end DiagCheck
