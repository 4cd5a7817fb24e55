import DiagCheck.CommandLine.Arguments

/-!
# Usage

What the command line says about itself, laid out for eighty columns.
-/

namespace DiagCheck.CommandLine

def usageText : Text := (
  "usage: syntaxtest [-h] [--config CONFIG] [--pipeline PIPELINE]\n" ++
  "                  [--evm-version EVM_VERSION] [--error-recovery] [--no-color]\n" ++
  "                  [--accept] [-v]\n" ++
  "                  files [files ...]\n").toList

def helpText : Text := usageText ++ (
  "\n" ++
  "Check compiler diagnostics against the expectations annotated in test files.\n" ++
  "\n" ++
  "positional arguments:\n" ++
  "  files                 syntax test files to run\n" ++
  "\n" ++
  "options:\n" ++
  "  -h, --help            show this help message and exit\n" ++
  "  --config CONFIG       YAML runner configuration\n" ++
  "  --pipeline PIPELINE   compiler stack factory as module:callable\n" ++
  "  --evm-version EVM_VERSION\n" ++
  "                        EVM version handed to the compiler\n" ++
  "  --error-recovery      enable parser error recovery\n" ++
  "  --no-color            disable ANSI colours\n" ++
  "  --accept              rewrite failing files with the obtained diagnostics\n" ++
  "  -v, --verbose         enable debug logging\n").toList

def Fault.complaint (f : Fault) : Text :=
  usageText ++ "syntaxtest: error: ".toList ++ f.message ++ ['\n']

end DiagCheck.CommandLine
