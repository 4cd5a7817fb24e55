import DiagCheck.Compiler.Failure
import DiagCheck.Compiler.Finding

/-!
# Compiler stacks

A stack is set up, then asked to parse, to analyze, to compile and for its findings. How it
answers is written down in scripts, one for each time that it is reset; the last one serves for
all further resets. A stack remembers what it was given and which calls it received.
-/

namespace DiagCheck.Compiler

inductive Optimiser where
  | minimal
  | full
  deriving DecidableEq, Repr

inductive Call where
  | reset
  | setSources (sources : List (Text × Text))
  | setEvmVersion (version : Text)
  | setErrorRecovery (enabled : Bool)
  | setOptimiser (profile : Optimiser)
  | parse
  | analyze
  | compile
  | findings
  deriving DecidableEq, Repr

structure Script where
  findings : List Finding := []
  parse : Except Failure Bool := .ok true
  analyze : Except Failure Bool := .ok true
  compile : Except Failure Bool := .ok true
  /-- What happens instead when the findings are asked for. -/
  refusal : Option Failure := none

structure Stack where
  /-- The scripts of the resets to come. -/
  queue : List Script
  current : Script := {}
  sources : Option (List (Text × Text)) := none
  evmVersion : Option Text := none
  recovery : Option Bool := none
  optimiser : Option Optimiser := none
  /-- The calls received, the first one first. -/
  calls : List Call := []

namespace Stack

def record (s : Stack) (c : Call) : Stack := { s with calls := s.calls ++ [c] }

def upcoming (s : Stack) : Script := s.queue.head?.getD {}

/-- The queue without its first script, which stays if it is the last. -/
def remaining (s : Stack) : List Script := if s.queue.length ≤ 1 then s.queue else s.queue.tail

def reset (s : Stack) : Stack :=
  { queue := s.remaining, current := s.upcoming, calls := s.calls ++ [.reset] }

def setSources (s : Stack) (sources : List (Text × Text)) : Stack :=
  { s.record (.setSources sources) with sources := some sources }

def setEvmVersion (s : Stack) (version : Text) : Stack :=
  { s.record (.setEvmVersion version) with evmVersion := some version }

def setErrorRecovery (s : Stack) (enabled : Bool) : Stack :=
  { s.record (.setErrorRecovery enabled) with recovery := some enabled }

def setOptimiser (s : Stack) (profile : Optimiser) : Stack :=
  { s.record (.setOptimiser profile) with optimiser := some profile }

def parse (s : Stack) : Stack × Except Failure Bool := (s.record .parse, s.current.parse)

def analyze (s : Stack) : Stack × Except Failure Bool := (s.record .analyze, s.current.analyze)

def compile (s : Stack) : Stack × Except Failure Bool := (s.record .compile, s.current.compile)

def findings (s : Stack) : Stack × Except Failure (List Finding) :=
  (s.record .findings,
    match s.current.refusal with
    | some f => .error f
    | none => .ok s.current.findings)

def forget (s : Stack) : Stack := { s with calls := [] }

end Stack

end DiagCheck.Compiler
