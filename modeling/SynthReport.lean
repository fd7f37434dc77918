import SynthReport.Main
import SynthReport.Proofs.Console.Cards
import SynthReport.Proofs.Report.Failures
import SynthReport.Proofs.Report.PipeTable
import SynthReport.Proofs.Files.Places
import SynthReport.Proofs.Files.Frame
import SynthReport.Proofs.Json.Grammar
import SynthReport.Proofs.Json.NumeralGrammar
import SynthReport.Proofs.Json.StringGrammar
import SynthReport.Proofs.Json.Inversion
import SynthReport.Proofs.Json.ValueGrammar
import SynthReport.Proofs.Program.Frame
import SynthReport.Proofs.Json.Digits
import SynthReport.Proofs.Json.NumberText
import SynthReport.Proofs.Number.Shortest
import SynthReport.Proofs.Json.DoubleText
import SynthReport.Proofs.Json.Layout
import SynthReport.Proofs.Json.Document
import SynthReport.Proofs.Json.Compact
import SynthReport.Proofs.Record.Loading
import SynthReport.Proofs.Json.Fields
import SynthReport.Proofs.Json.Sizes
import SynthReport.Proofs.Report.Export
import SynthReport.Proofs.Rule.Condensed
import SynthReport.Proofs.Number.Closest
import SynthReport.Proofs.Number.Halves
import SynthReport.Proofs.Number.FixedText
import SynthReport.Proofs.CommandLine.DisplayArguments
import SynthReport.Proofs.Program.Exports
import SynthReport.Proofs.Program.Display
import SynthReport.Proofs.Rule.Expanded
import SynthReport.Proofs.Number.Percentage
import SynthReport.Proofs.Console.Widths
import SynthReport.Proofs.Text.Fitted
import SynthReport.Proofs.Report.TableLines
import SynthReport.Proofs.Console.Heights
import SynthReport.Proofs.Console.VariantLines
import SynthReport.Proofs.Number.Interval
import SynthReport.Proofs.Json.ExactNumeral
import SynthReport.Proofs.Number.Roundings
import SynthReport.Proofs.Json.ScaledNumeral
import SynthReport.Proofs.Cell.RoundTrip
import SynthReport.Proofs.Number.BitPatterns
import SynthReport.Proofs.Record.DottedPaths
import SynthReport.Proofs.Rule.Classes
import SynthReport.Proofs.Console.Colours
