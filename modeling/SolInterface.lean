import SolInterface.Main
import SolInterface.Proofs.Text
import SolInterface.Proofs.DirectiveRoundtrip
import SolInterface.Proofs.FunctionHead
import SolInterface.Proofs.FunctionLines
import SolInterface.Proofs.SpecifierOrder
import SolInterface.Proofs.Occurrences
import SolInterface.Proofs.Canonical.Document
import SolInterface.Proofs.Canonical.Names
import SolInterface.Proofs.Canonical.Scan
import SolInterface.Proofs.Canonical.Prelude
import SolInterface.Proofs.Canonical.Lines
import SolInterface.Proofs.Canonical.Extract
import SolInterface.Proofs.Recipe
import SolInterface.Proofs.TypeSubstitution
import SolInterface.Proofs.Canonical.Rendering
import SolInterface.Proofs.Canonical.Interface
import SolInterface.Proofs.BuildDirective
import SolInterface.Proofs.Generation
import SolInterface.Proofs.Workspace
import SolInterface.Proofs.FileTree
import SolInterface.Proofs.Discovery
import SolInterface.Proofs.Outputs
import SolInterface.Proofs.Layout
import SolInterface.Proofs.IncrementalBuild
import SolInterface.Proofs.BuildHistory
import SolInterface.Proofs.Locality
import SolInterface.Proofs.ReaderLocality
import SolInterface.Proofs.CommentLines
import SolInterface.Proofs.Indifference
import SolInterface.Proofs.Refusal
import SolInterface.Proofs.ModuleIsolation
import SolInterface.Proofs.BuildFrame
import SolInterface.Proofs.Console
import SolInterface.Proofs.Markup
import SolInterface.Proofs.BatchRuns
import SolInterface.Proofs.BatchIsolation
import SolInterface.Proofs.BatchInputs
import SolInterface.Proofs.RepeatedBuild
import SolInterface.Proofs.NewNames
import SolInterface.Proofs.BatchTally
import SolInterface.Proofs.WrittenCount
import SolInterface.Proofs.AnnouncedTotal
import SolInterface.Proofs.SummaryAccounts
import SolInterface.Proofs.RootPlacement
import SolInterface.Proofs.LeadingLines
import SolInterface.Proofs.TypeRuns
import SolInterface.Proofs.TypeLists
import SolInterface.Proofs.FlagRoundtrip
import SolInterface.Proofs.HeadLayout
import SolInterface.Proofs.VariableWords
import SolInterface.Proofs.RequestOrder
import SolInterface.Proofs.ModuleOverlay
import SolInterface.Proofs.DocSearch
import SolInterface.Proofs.DocCapture
import SolInterface.Proofs.DocCuts
import SolInterface.Proofs.DocTransparency
import SolInterface.Proofs.Exclusion
import SolInterface.Proofs.DocIndent
import SolInterface.Proofs.GrammarAgreement
import SolInterface.Proofs.WarningAccounts
import SolInterface.Proofs.OutputPlaces
