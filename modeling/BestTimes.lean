import BestTimes.Binary64.Bits
import BestTimes.Directory
import BestTimes.Main
import BestTimes.Proofs.CommandLine.Arguments
import BestTimes.Proofs.CommandLine.Output
import BestTimes.Proofs.Comparison.Overflow
import BestTimes.Proofs.Comparison.Session
import BestTimes.Proofs.Reading.Files
import BestTimes.Proofs.Reading.Missing
import BestTimes.Proofs.Reading.Summary
import BestTimes.Proofs.Registry.Containers
import BestTimes.Proofs.Registry.History
import BestTimes.Proofs.Report.FixedPoint
import BestTimes.Proofs.Report.Order
import BestTimes.Proofs.Report.Truncation
import BestTimes.Proofs.Report.Tokens
import BestTimes.Proofs.Report.Repetition
import BestTimes.Proofs.Decimal.Notation
import BestTimes.Proofs.Decimal.Significant
import BestTimes.Proofs.Binary64
import BestTimes.Proofs.Comparison.Finite
import BestTimes.Proofs.Decimal.Shortest
import BestTimes.Proofs.Json.Decoding
import BestTimes.Proofs.Json.Parts
import BestTimes.Proofs.Json.Rendering
import BestTimes.Proofs.Report.Json
import BestTimes.Proofs.Reading.FirstFault
import BestTimes.Proofs.Comparison.Checks
import BestTimes.Proofs.Comparison.Deriving
import BestTimes.Proofs.Binary64.Bounds
import BestTimes.Proofs.Binary64.Value
import BestTimes.Proofs.Binary64.Accuracy
import BestTimes.Proofs.Reading.Again
import BestTimes.Proofs.Comparison.Accuracy
import BestTimes.Proofs.Comparison.Sign
import BestTimes.Proofs.Decimal.Numeral
import BestTimes.Proofs.Measurement.Conversion
import BestTimes.Proofs.Measurement.PlainTimes
import BestTimes.Proofs.Binary64.Order
import BestTimes.Proofs.Measurement.Order
import BestTimes.Proofs.Reading.Trace
import BestTimes.Proofs.Reading.Unreadable
import BestTimes.Proofs.Decimal.Grammar
import BestTimes.Proofs.Report.Numbers
