import CheckerOlimp.Std.Program
import CheckerOlimp.Std.Recovery
import CheckerOlimp.Std.Polling
import CheckerOlimp.Std.Triple
import CheckerOlimp.Std.Ledger
import CheckerOlimp.Std.Text
import CheckerOlimp.Std.CommandLine
import CheckerOlimp.Platform.Win32
import CheckerOlimp.Platform.Machine
import CheckerOlimp.Std.Json
import CheckerOlimp.Std.JsonParser
import CheckerOlimp.Std.SqlScanner
import CheckerOlimp.Std.Sql
import CheckerOlimp.Std.Sheet
import CheckerOlimp.CheckerRc.Reader
import CheckerOlimp.CheckerRc.Executor
import CheckerOlimp.CheckerRc.Process
import CheckerOlimp.CheckerRc.Matcher
import CheckerOlimp.CheckerRc.Builder
import CheckerOlimp.CheckerRc.Checker
import CheckerOlimp.Judging.Monitors
import CheckerOlimp.Judging.Execution
import CheckerOlimp.Judging.Stopping
import CheckerOlimp.Judging.Sampling
import CheckerOlimp.Judging.Rejection
import CheckerOlimp.Judging.Classification
import CheckerOlimp.Judging.Report
import CheckerOlimp.Judging.Comparison
import CheckerOlimp.Judging.Independence
import CheckerOlimp.Judging.Acceptance
import CheckerOlimp.Judging.Completion
import CheckerOlimp.Judging.Build
import CheckerOlimp.Judging.Template
import CheckerOlimp.Judging.Provenance
import CheckerOlimp.Judging.Schema
import CheckerOlimp.Judging.Definedness
import CheckerOlimp.Judging.Grading
import CheckerOlimp.Judging.Paths
import CheckerOlimp.Judging.Arguments
import CheckerOlimp.Judging.Matching
import CheckerOlimp.Judging.Input
import CheckerOlimp.Judging.Invariants
import CheckerOlimp.Judging.Footprint
import CheckerOlimp.Judging.Calls
import CheckerOlimp.Judging.Handles
import CheckerOlimp.Judging.Clock
import CheckerOlimp.Platform.Host
import CheckerOlimp.Contester.Data
import CheckerOlimp.Judging.Serialization
import CheckerOlimp.Judging.Executable
import CheckerOlimp.Judging.Identifiers
import CheckerOlimp.Contester.ConfigRoundTrip
import CheckerOlimp.Contester.Storage
import CheckerOlimp.Contester.Transport
import CheckerOlimp.Contester.Loading
import CheckerOlimp.Contester.Resilience
import CheckerOlimp.Contester.Serving
import CheckerOlimp.Contester.Progress
import CheckerOlimp.Contester.Pacing
import CheckerOlimp.Contester.Catalog
import CheckerOlimp.Contester.Backlog
import CheckerOlimp.Contester.Triples
import CheckerOlimp.Contester.Interleaving
import CheckerOlimp.Contester.Simulation
import CheckerOlimp.Contester.EndToEnd
import CheckerOlimp.Contester.Grading
import CheckerOlimp.Contester.Invocation
import CheckerOlimp.Contester.Startup
