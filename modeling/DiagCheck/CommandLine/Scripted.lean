import DiagCheck.CommandLine.Session
import DiagCheck.Yaml.Load

/-!
# The environment of scripted runs

Runs with scripted stacks find the modules made for them.
-/

namespace DiagCheck.CommandLine

def scripted : Environment where
  modules := Pipeline.scripted
  load := Yaml.load
  check := Config.Schema.check

end DiagCheck.CommandLine
