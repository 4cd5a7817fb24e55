import DiagCheck.Config.File
import DiagCheck.Proofs.Config.Acceptance

/-! What a configuration file says, and why it may fail to say anything. It is loaded in steps,
each of which can fail. A configuration that is loaded has the values that the entries of the file
give, and the defaults where they give none. -/
namespace DiagCheck.Config

open Value

variable {load : Loader} {check : Checker} {v : Value} {c : Config} {name : Text}
  {entries : List (Scalar × Value)} {d : Directory} {path : Text} {bytes : Bytes}

/-! ## Values -/

end DiagCheck.Config
