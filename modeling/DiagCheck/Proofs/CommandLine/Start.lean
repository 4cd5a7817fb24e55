import DiagCheck.CommandLine.Scripted
import DiagCheck.Proofs.Config.File
import DiagCheck.Proofs.CommandLine.Composition

/-! The start of a session. The configuration is combined from the arguments and the file that they
name, and the pipeline is resolved. Where one of these steps fails the session ends, and nothing
has been done to any test. -/
namespace DiagCheck.CommandLine

open Config Compiler

variable {env : Environment} {a : Arguments} {d : Directory} {c : Config}
  {entries : List (Scalar × Value)} {product : Pipeline.Product} {f : StartFault}

end DiagCheck.CommandLine
