import DiagCheck.Text.Basic

/-!
# Log lines

What a verbose run tells of its progress. Each line names its topic first.
-/

namespace DiagCheck

inductive LogLine where
  | running (name evmVersion : Text) (optimise : Bool)
  | parsed
  | generating
  | inconsistent (reason : Text)
  deriving DecidableEq, Repr

namespace LogLine

def testTopic : Text := "syntaxtest.testcase: ".toList

def compilerTopic : Text := "syntaxtest.pipeline.normalizer: ".toList

def text : LogLine → Text
  | running name evmVersion optimise =>
    testTopic ++ "running ".toList ++ name ++ " (evm=".toList ++ evmVersion ++
      ", optimise=".toList ++ (if optimise then "True".toList else "False".toList) ++ [')']
  | parsed => compilerTopic ++ "parse succeeded".toList
  | generating => compilerTopic ++ "analysis succeeded, generating code".toList
  | inconsistent reason => compilerTopic ++ "fatal outcome: ".toList ++ reason

end LogLine

end DiagCheck
