import DiagCheck.Compiler.Stack
import DiagCheck.Log

/-!
# Examinations

An examination compiles one source behind the version line and collects the diagnostics. A
source that does not parse or that fails analysis is an ordinary case: its diagnostics are what
is wanted. A stack that accepts a source and then fails to generate code for it contradicts
itself, which is reported in place of diagnostics.
-/

namespace DiagCheck.Compiler

structure Job where
  source : Text
  evmVersion : Text
  optimise : Bool := false
  recovery : Bool := false
  deriving DecidableEq, Repr

/-- Code generation failed for a source that had been accepted. -/
inductive Inconsistency where
  | refused
  | failed (failure : Failure)
  deriving DecidableEq, Repr

namespace Inconsistency

def reason : Inconsistency → Text
  | refused => "Compilation failed even though analysis was successful.".toList
  | failed f =>
    "Code generation raised ".toList ++ f.name ++ " even though analysis was successful.".toList

def cause : Inconsistency → Option Failure
  | refused => none
  | failed f => some f

end Inconsistency

/-- How far a source got. -/
inductive Progress where
  /-- It did not parse, or analysis refused it. -/
  | rejected
  | generated
  | unimplemented (comment : Option Text)
  | inconsistent (i : Inconsistency)
  deriving DecidableEq, Repr

inductive Outcome where
  | diagnostics (ds : List Diagnostic)
  | inconsistent (i : Inconsistency)
  deriving DecidableEq, Repr

/-- What keeps an examination from an outcome. -/
inductive Fault where
  | failure (f : Failure)
  /-- A finding does not say whether it is secondary. -/
  | unmarkedFinding
  deriving DecidableEq, Repr

/-- A result together with the stack it leaves and the lines it logs. -/
structure Examination (α : Type) where
  stack : Stack
  log : List LogLine := []
  result : α

namespace Stack

def prepare (s : Stack) (job : Job) : Stack :=
  s.reset
    |>.setSources [([], versionLine ++ job.source)]
    |>.setEvmVersion job.evmVersion
    |>.setErrorRecovery job.recovery
    |>.setOptimiser (if job.optimise then .full else .minimal)

/-- What an answer of code generation means for an accepted source. -/
def progressOf : Except Failure Bool → Except Failure Progress
  | .ok true => .ok .generated
  | .ok false => .ok (.inconsistent .refused)
  | .error f => match f.reach with
    | .unimplemented => .ok (.unimplemented f.text)
    | .interrupt => .error f
    | _ => .ok (.inconsistent (.failed f))

def advance (s : Stack) : Examination (Except Failure Progress) :=
  match s.parse with
  | (s, .error f) => ⟨s, [], .error f⟩
  | (s, .ok false) => ⟨s, [], .ok .rejected⟩
  | (s, .ok true) => match s.analyze with
    | (s, .error f) => ⟨s, [.parsed], .error f⟩
    | (s, .ok false) => ⟨s, [.parsed], .ok .rejected⟩
    | (s, .ok true) => ⟨s.compile.1, [.parsed, .generating], progressOf s.compile.2⟩

/-- The diagnostic for a lacking feature. It has no location. -/
def unimplementedDiagnostic (comment : Option Text) : Diagnostic :=
  { kind := "UnimplementedFeatureError".toList, message := commentText comment }

/-- The diagnostics of the findings, behind those that are known already. -/
def collect (s : Stack) (known : List Diagnostic) : Stack × Except Fault Outcome :=
  match s.findings with
  | (s, .error f) => (s, .error (.failure f))
  | (s, .ok fs) => match Finding.primary? fs with
    | none => (s, .error .unmarkedFinding)
    | some fs => (s, .ok (.diagnostics (known ++ fs.map (Finding.toDiagnostic versionLine.length))))

/-- Examines the source of a job. The findings are asked for unless the stack failed or
contradicted itself. -/
def examine (s : Stack) (job : Job) : Examination (Except Fault Outcome) :=
  match (s.prepare job).advance with
  | ⟨s, log, .error f⟩ => ⟨s, log, .error (.failure f)⟩
  | ⟨s, log, .ok (.inconsistent i)⟩ =>
    ⟨s, log ++ [.inconsistent i.reason], .ok (.inconsistent i)⟩
  | ⟨s, log, .ok (.unimplemented comment)⟩ =>
    ⟨(s.collect [unimplementedDiagnostic comment]).1, log,
      (s.collect [unimplementedDiagnostic comment]).2⟩
  | ⟨s, log, .ok _⟩ => ⟨(s.collect []).1, log, (s.collect []).2⟩

def setup (job : Job) : List Call := [
  .reset, .setSources [([], versionLine ++ job.source)], .setEvmVersion job.evmVersion,
  .setErrorRecovery job.recovery, .setOptimiser (if job.optimise then .full else .minimal)]

theorem calls_prepare (s : Stack) (job : Job) :
    (s.prepare job).calls = s.calls ++ setup job := by
  simp [prepare, setup, reset, setSources, setEvmVersion, setErrorRecovery, setOptimiser, record]

/-- A prepared stack holds the job and the next script, and nothing of an earlier job. -/
theorem prepare_eq (s : Stack) (job : Job) :
    s.prepare job =
      { queue := s.remaining, current := s.upcoming,
        sources := some [([], versionLine ++ job.source)], evmVersion := some job.evmVersion,
        recovery := some job.recovery,
        optimiser := some (if job.optimise then .full else .minimal),
        calls := s.calls ++ setup job } := by
  simp [prepare, setup, reset, setSources, setEvmVersion, setErrorRecovery, setOptimiser, record]

end Stack

end DiagCheck.Compiler
