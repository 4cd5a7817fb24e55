import DiagCheck.Main
import DiagCheck.Proofs.Compiler.Script
import DiagCheck.Proofs.TestCase.Built
import DiagCheck.Proofs.TestCase.Verdict
import DiagCheck.Proofs.TestCase.LifeCycle
import DiagCheck.Proofs.TestCase.Compilation
import DiagCheck.Proofs.CommandLine.Acceptance
import DiagCheck.Proofs.CommandLine.Judgement
import DiagCheck.Proofs.CommandLine.Composition
import DiagCheck.Proofs.CommandLine.Rendering
import DiagCheck.Proofs.Compiler.Account
import DiagCheck.Proofs.Expectation.Grammar
import DiagCheck.Proofs.Render.Terminal
import DiagCheck.Proofs.Sections.Places
import DiagCheck.Proofs.Compiler.Location
import DiagCheck.Proofs.Render.Uncoloured
import DiagCheck.Proofs.Render.Unambiguous
import DiagCheck.Proofs.TestCase.LineEnds
import DiagCheck.Proofs.TestCase.Bytes
import DiagCheck.Proofs.Config.Schema
import DiagCheck.Proofs.Config.Object
import DiagCheck.Proofs.Expectation.Lines
import DiagCheck.Proofs.Pipeline.Resolution
import DiagCheck.Proofs.CommandLine.Start
