import LoadReport.Config.Preset
import LoadReport.Main
import LoadReport.Report.Run
import LoadReport.Results.Writer
import LoadReport.Proofs.Run.Faults
import LoadReport.Proofs.Run.Rendering
import LoadReport.Proofs.Run.Crashes
import LoadReport.Proofs.Run.Overwriting
import LoadReport.Proofs.Run.Bookkeeping
import LoadReport.Proofs.Run.Composition
import LoadReport.Proofs.Run.Saving
import LoadReport.Proofs.Run.Calling
import LoadReport.Proofs.Binary64.Nearest
import LoadReport.Proofs.Binary64.Precision
import LoadReport.Proofs.Decimal.Shortest
import LoadReport.Proofs.Json.Scaling
import LoadReport.Proofs.Json.Spelling
import LoadReport.Proofs.Results.Numbers
import LoadReport.Proofs.Results.Quoting
import LoadReport.Proofs.Results.RoundTrip
import LoadReport.Proofs.Json.Number
import LoadReport.Proofs.Json.Lexeme
import LoadReport.Proofs.Json.Value
import LoadReport.Proofs.Results.Fields
import LoadReport.Proofs.Results.Ignoring
import LoadReport.Proofs.Results.Members
import LoadReport.Proofs.Results.Rearranging
import LoadReport.Proofs.Results.Shapes
import LoadReport.Proofs.Loading.Order
import LoadReport.Proofs.Run.Refusals
import LoadReport.Proofs.Run.Failures
import LoadReport.Proofs.Run.Absence
import LoadReport.Proofs.Layout.Coloring
import LoadReport.Proofs.Run.Coloring
import LoadReport.Proofs.Binary64.Finite
import LoadReport.Proofs.Layout.Finiteness
import LoadReport.Proofs.Layout.Labelling
import LoadReport.Proofs.Run.Finiteness
import LoadReport.Proofs.Path
import LoadReport.Proofs.Conditions
import LoadReport.Proofs.Config.Precedence
import LoadReport.Proofs.Drawing.Session
import LoadReport.Proofs.Drawing.Faithfulness
import LoadReport.Proofs.Drawing.Housekeeping
import LoadReport.Proofs.Drawing.Elements
import LoadReport.Proofs.Drawing.Interruption
import LoadReport.Proofs.Loading.Workloads
import LoadReport.Proofs.Run.Benchmark
import LoadReport.Proofs.Layout.Elements
import LoadReport.Proofs.Decimal.Digits
import LoadReport.Proofs.LabelFormat.Grammar
import LoadReport.Proofs.LabelFormat.Composition
import LoadReport.Proofs.Binary64.Value
import LoadReport.Proofs.Decimal.Fixed
import LoadReport.Proofs.LabelFormat.Conversions
import LoadReport.Proofs.FileTree
import LoadReport.Proofs.FileTree.Changes
import LoadReport.Proofs.Measurement
import LoadReport.Proofs.Loading.Files
import LoadReport.Proofs.Results.Origins
import LoadReport.Proofs.Json.Signs
import LoadReport.Proofs.LabelFormat.Minus
import LoadReport.Proofs.Layout.Building
import LoadReport.Proofs.Layout.Slots
import LoadReport.Proofs.Dataset
