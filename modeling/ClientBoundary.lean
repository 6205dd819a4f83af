import ClientBoundary.Command
import ClientBoundary.Main
import ClientBoundary.Proofs.AdditionPatch
import ClientBoundary.Proofs.Buckets
import ClientBoundary.Proofs.ClientHalf
import ClientBoundary.Proofs.ClientSpecifier
import ClientBoundary.Proofs.CommandRuns
import ClientBoundary.Proofs.Comments
import ClientBoundary.Proofs.ComponentFiles
import ClientBoundary.Proofs.ComponentName
import ClientBoundary.Proofs.ConsoleLaws
import ClientBoundary.Proofs.Conversion
import ClientBoundary.Proofs.DelegateName
import ClientBoundary.Proofs.DirectiveLines
import ClientBoundary.Proofs.DocumentOrder
import ClientBoundary.Proofs.DoubledBackslashes
import ClientBoundary.Proofs.ElementNames
import ClientBoundary.Proofs.ErrorMessages
import ClientBoundary.Proofs.EscapeTokens
import ClientBoundary.Proofs.ExitStatus
import ClientBoundary.Proofs.Files
import ClientBoundary.Proofs.ImportForms
import ClientBoundary.Proofs.ImportNames
import ClientBoundary.Proofs.InertText
import ClientBoundary.Proofs.InsertedDirective
import ClientBoundary.Proofs.LintAgreement
import ClientBoundary.Proofs.LintLocations
import ClientBoundary.Proofs.LintSettles
import ClientBoundary.Proofs.LintSteps
import ClientBoundary.Proofs.Numbering
import ClientBoundary.Proofs.OneLine
import ClientBoundary.Proofs.Outcome
import ClientBoundary.Proofs.Partitioning
import ClientBoundary.Proofs.PropsAnnotation
import ClientBoundary.Proofs.Rendering
import ClientBoundary.Proofs.ServerHalf
import ClientBoundary.Proofs.SiblingNames
import ClientBoundary.Proofs.SiblingPaths
import ClientBoundary.Proofs.SimultaneousEdits
import ClientBoundary.Proofs.SplitEffects
import ClientBoundary.Proofs.SplitVerdict
import ClientBoundary.Proofs.SplitWrites
import ClientBoundary.Proofs.SyntaxErrors
import ClientBoundary.Proofs.TagMarks
import ClientBoundary.Proofs.Taint
import ClientBoundary.Proofs.TaintSet
import ClientBoundary.Proofs.TerminalLaws
import ClientBoundary.Proofs.Traversal
import ClientBoundary.Proofs.TreeSearch
import ClientBoundary.Proofs.Utf8
import ClientBoundary.Proofs.WrittenPaths
import ClientBoundary.Tool
