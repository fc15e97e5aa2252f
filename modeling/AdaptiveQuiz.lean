import AdaptiveQuiz.Numeric.Arithmetic
import AdaptiveQuiz.Text.Blank
import AdaptiveQuiz.Json.Parser
import AdaptiveQuiz.Json.Printer
import AdaptiveQuiz.Flow.Compiler
import AdaptiveQuiz.Document.Review
import AdaptiveQuiz.Flow.Traversal
import AdaptiveQuiz.Flow.Walk
import AdaptiveQuiz.Journal.Switchboard
import AdaptiveQuiz.Analytics.MultiStage
import AdaptiveQuiz.Notice
import AdaptiveQuiz.Catalog.Builtin
import AdaptiveQuiz.Catalog.Binding
import AdaptiveQuiz.Catalog.Routing
import AdaptiveQuiz.Migration.Unrolled
import AdaptiveQuiz.Session.Run
import AdaptiveQuiz.Proofs.Flow.Reachability
import AdaptiveQuiz.Proofs.Document.WellFormed
import AdaptiveQuiz.Proofs.Flow.Wiring
import AdaptiveQuiz.Proofs.Flow.Compilation
import AdaptiveQuiz.Proofs.Flow.Diagnostics
import AdaptiveQuiz.Proofs.Flow.Soundness
import AdaptiveQuiz.Proofs.Schema.Dump
import AdaptiveQuiz.Proofs.Document.RoundTrip
import AdaptiveQuiz.Proofs.Document.Review
import AdaptiveQuiz.Proofs.Migration.Recompilation
import AdaptiveQuiz.Proofs.Flow.Traversal
import AdaptiveQuiz.Proofs.Flow.Walk
import AdaptiveQuiz.Proofs.Session.Step
import AdaptiveQuiz.Proofs.Session.Start
import AdaptiveQuiz.Proofs.Session.Safety
import AdaptiveQuiz.Proofs.Flow.DependencyTree
import AdaptiveQuiz.Proofs.Flow.Coherence
import AdaptiveQuiz.Proofs.Flow.Rearrangement
import AdaptiveQuiz.Proofs.Flow.Verdict
import AdaptiveQuiz.Proofs.Journal.Account
import AdaptiveQuiz.Proofs.Journal.Environment
import AdaptiveQuiz.Proofs.Journal.Delivery
import AdaptiveQuiz.Proofs.Analytics.MultiStage
import AdaptiveQuiz.Proofs.Analytics.Erasure
import AdaptiveQuiz.Proofs.Catalog.Builtin
import AdaptiveQuiz.Proofs.Session.Dependency
import AdaptiveQuiz.Proofs.Session.Parallel
import AdaptiveQuiz.Proofs.Migration.Session
import AdaptiveQuiz.Proofs.Session.Replies
import AdaptiveQuiz.Proofs.Session.Gate
import AdaptiveQuiz.Proofs.Session.Provenance
import AdaptiveQuiz.Proofs.Analytics.Outcome
import AdaptiveQuiz.Proofs.Session.Completion
import AdaptiveQuiz.Proofs.Session.Outcome
import AdaptiveQuiz.Proofs.Session.TypeLookup
import AdaptiveQuiz.Proofs.Catalog.Ledger
import AdaptiveQuiz.Proofs.Session.StartFailure
import AdaptiveQuiz.Proofs.Document.SingleStage
import AdaptiveQuiz.Proofs.Session.NamedType
import AdaptiveQuiz.Proofs.Migration.Legacy
import AdaptiveQuiz.Proofs.Session.Host
import AdaptiveQuiz.Proofs.Session.Journal
import AdaptiveQuiz.Proofs.Session.Interference
import AdaptiveQuiz.Proofs.Session.Observation
import AdaptiveQuiz.Proofs.Session.Path
import AdaptiveQuiz.Proofs.Numeric.Rounding
import AdaptiveQuiz.Proofs.Analytics.Record
import AdaptiveQuiz.Proofs.Analytics.Measures
import AdaptiveQuiz.Proofs.Session.Analysis
import AdaptiveQuiz.Proofs.Analytics.Diagnosis
import AdaptiveQuiz.Proofs.Session.Diagnosis
import AdaptiveQuiz.Proofs.Document.Rereading
import AdaptiveQuiz.Proofs.Migration.CorrectOption
import AdaptiveQuiz.Proofs.Schema.Shape
import AdaptiveQuiz.Proofs.Document.Shape
import AdaptiveQuiz.Proofs.Document.Admission
import AdaptiveQuiz.Proofs.Numeric.Nearness
import AdaptiveQuiz.Proofs.Analytics.Mastery
import AdaptiveQuiz.Proofs.Session.Series
import AdaptiveQuiz.Proofs.Flow.Exhaustion
