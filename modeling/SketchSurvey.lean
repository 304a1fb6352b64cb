import SketchSurvey.CommandLine.Run
import SketchSurvey.Main
import SketchSurvey.Proofs.Analysis.Binding
import SketchSurvey.Proofs.Analysis.FreeVariables
import SketchSurvey.Proofs.Files.EntryNames
import SketchSurvey.Proofs.Sketch.Partition
import SketchSurvey.Proofs.Script.Printable
import SketchSurvey.Proofs.Settings.Strictness
import SketchSurvey.Proofs.Script.SyntaxTree
import SketchSurvey.Proofs.Script.Lowered
import SketchSurvey.Proofs.Script.TreeShape
import SketchSurvey.Proofs.Script.LoweredExpression
import SketchSurvey.Proofs.Script.LoweredPattern
import SketchSurvey.Proofs.Script.LoweredStatement
import SketchSurvey.Proofs.Script.PrintedTree
import SketchSurvey.Proofs.Script.RoundTrip
import SketchSurvey.Proofs.Analysis.Hoisting
import SketchSurvey.Proofs.Analysis.MemberReferences
import SketchSurvey.Proofs.Files.Extension
import SketchSurvey.Proofs.Files.TextFile
import SketchSurvey.Proofs.Markup.Refusal
import SketchSurvey.Proofs.Regex.Escaped
import SketchSurvey.Proofs.Settings.Fallback
import SketchSurvey.Proofs.Sketch.Judgement
import SketchSurvey.Proofs.Sketch.Projects
import SketchSurvey.Proofs.Sketch.Returns
import SketchSurvey.Proofs.Text.SmallLetters
import SketchSurvey.Proofs.Text.Trimmed
import SketchSurvey.Proofs.Settings.Soundness
import SketchSurvey.Proofs.Script.Outline
import SketchSurvey.Proofs.Script.WellFormed
import SketchSurvey.Proofs.Script.Conformity
import SketchSurvey.Proofs.Script.Restricted
import SketchSurvey.Proofs.Json.Quote
import SketchSurvey.Proofs.Script.Words
import SketchSurvey.Proofs.Script.Literal
import SketchSurvey.Proofs.Script.Written
import SketchSurvey.Proofs.Script.Layout
import SketchSurvey.Proofs.Sketch.Report
import SketchSurvey.Proofs.Files.Growth
import SketchSurvey.Proofs.Log.Frame
import SketchSurvey.Proofs.Log.History
import SketchSurvey.Proofs.Log.Records
import SketchSurvey.Proofs.CommandLine.Performed
import SketchSurvey.Proofs.CommandLine.Stop
import SketchSurvey.Proofs.CommandLine.ExitCode
import SketchSurvey.Proofs.Json.RoundTrip
import SketchSurvey.Proofs.Text.Utf8
import SketchSurvey.Proofs.Log.Delivery
import SketchSurvey.Proofs.Settings.Settled
import SketchSurvey.Proofs.Json.ShortNumbers
import SketchSurvey.Proofs.Files.AbsolutePath
import SketchSurvey.Proofs.Files.Directories
import SketchSurvey.Proofs.Files.FileText
import SketchSurvey.Proofs.Log.Reopening
import SketchSurvey.Proofs.Log.Unopened
import SketchSurvey.Proofs.CommandLine.Dump
import SketchSurvey.Proofs.Analysis.Reordering
import SketchSurvey.Proofs.Sketch.ReportText
import SketchSurvey.Proofs.Settings.Faults
import SketchSurvey.Proofs.Settings.Repair
import SketchSurvey.Proofs.Script.Renaming
import SketchSurvey.Proofs.Analysis.Renaming
import SketchSurvey.Proofs.Sketch.Index
import SketchSurvey.Proofs.Sketch.Subdirectories
import SketchSurvey.Proofs.Script.Alike
import SketchSurvey.Proofs.Script.Comments
import SketchSurvey.Proofs.Script.Recommented
import SketchSurvey.Proofs.Analysis.Spelling
import SketchSurvey.Proofs.Analysis.Comments
import SketchSurvey.Proofs.Files.Arrangement
import SketchSurvey.Proofs.Sketch.IndexOrder
import SketchSurvey.Proofs.Sketch.SizeLimit
import SketchSurvey.Proofs.Regex.Matching
import SketchSurvey.Proofs.Markup.LongReference
import SketchSurvey.Proofs.Markup.QuotedAttributes
import SketchSurvey.Proofs.Sketch.TextualSearch
import SketchSurvey.Proofs.Markup.Parts
import SketchSurvey.Proofs.Settings.LibraryPattern
import SketchSurvey.Proofs.Sketch.Declarations
import SketchSurvey.Proofs.Sketch.LibraryName
import SketchSurvey.Proofs.Sketch.PageTitle
import SketchSurvey.Proofs.Sketch.ProjectTitle
import SketchSurvey.Proofs.Settings.Loaded
import SketchSurvey.Proofs.CommandLine.Wishes
import SketchSurvey.Proofs.CommandLine.SketchFunctions
import SketchSurvey.Proofs.CommandLine.Document
import SketchSurvey.Proofs.Script.Preorder
import SketchSurvey.Proofs.Script.FirstError
import SketchSurvey.Proofs.Analysis.Reached
import SketchSurvey.Proofs.Analysis.SourceOrder
import SketchSurvey.Proofs.Analysis.Stages
