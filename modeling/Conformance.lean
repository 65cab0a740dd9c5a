import Conformance.Main
import Conformance.Proofs.Trace
import Conformance.Proofs.Verdict
import Conformance.Proofs.Replay
import Conformance.Proofs.Sink
import Conformance.Proofs.Path
import Conformance.Proofs.FileTree
import Conformance.Proofs.Discovery
import Conformance.Proofs.Utf8
import Conformance.Proofs.Json
import Conformance.Proofs.Decimal
import Conformance.Proofs.Report
import Conformance.Proofs.JsonLines
import Conformance.Proofs.Outcomes
import Conformance.Proofs.Finding
import Conformance.Proofs.Console
import Conformance.Proofs.Decoration
import Conformance.Proofs.Independence
import Conformance.Proofs.Grammar
import Conformance.Proofs.Place
import Conformance.Proofs.ErrorReport
import Conformance.Proofs.Attempt
import Conformance.Proofs.ErrorOrder
import Conformance.Proofs.Output
import Conformance.Proofs.StackTrace
import Conformance.Proofs.Line
import Conformance.Proofs.Context
import Conformance.Proofs.Elapsed
import Conformance.Proofs.BestTimes
import Conformance.Proofs.Turns
import Conformance.Proofs.Trials
import Conformance.Proofs.BenchmarkEnding
import Conformance.Proofs.Counter
import Conformance.Proofs.CommandLine
import Conformance.Proofs.SuiteOnTree
