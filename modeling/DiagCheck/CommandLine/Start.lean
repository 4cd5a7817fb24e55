import DiagCheck.CommandLine.Arguments
import DiagCheck.Config.File
import DiagCheck.Pipeline

/-!
# Starting a run

Before any test is looked at, the configuration is put together from the command line and the
configuration file, and the factory of the compiler stack is found. What the command line says
comes first; a configuration file that is named is read in any case. The modules, the loader of
files and the checker of values come from the environment.
-/

namespace DiagCheck.CommandLine

structure Environment where
  modules : Pipeline.Environment
  load : Config.Loader
  check : Config.Checker

inductive StartFault where
  /-- Neither a configuration nor a pipeline is named. -/
  | noPipeline
  | config (f : Config.Fault)
  | pipeline (f : Pipeline.Fault)

namespace StartFault

/-- The fault is reported to the user. Any other ends the program. -/
def isConfiguration : StartFault → Bool
  | noPipeline => true
  | config f => f.isConfiguration
  | pipeline f => f.isConfiguration

def message : StartFault → Text
  | noPipeline => "Either --config or --pipeline is required".toList
  | config f => f.message
  | pipeline f => f.message

end StartFault

def orElse (t other : Text) : Text := if t = [] then other else t

def baseConfig (env : Environment) (a : Arguments) (d : Directory) : Except StartFault Config :=
  if a.config ≠ [] then (Config.ofFile env.load env.check d a.config).mapError .config
  else if a.pipeline ≠ [] then .ok { pipeline := a.pipeline }
  else .error .noPipeline

/-- The configuration with what the command line says put in its place. -/
def override (a : Arguments) (c : Config) : Config := { c with
  pipeline := orElse a.pipeline c.pipeline
  evmVersion := orElse a.evmVersion c.evmVersion
  recovery := a.errorRecovery || c.recovery
  formatted := !a.noColor && c.formatted }

def effective (env : Environment) (a : Arguments) (d : Directory) : Except StartFault Config :=
  (baseConfig env a d).map (override a)

/-- The configuration of the run and what the pipeline has made. -/
def start (env : Environment) (a : Arguments) (d : Directory) :
    Except StartFault (Config × Pipeline.Product) :=
  (effective env a d).bind fun c =>
    ((Pipeline.resolve env.modules c.pipeline).mapError .pipeline).map fun product => (c, product)

end DiagCheck.CommandLine
