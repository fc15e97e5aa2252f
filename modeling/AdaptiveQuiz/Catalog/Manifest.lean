import AdaptiveQuiz.Analytics.Failure
import AdaptiveQuiz.Analytics.Record
import AdaptiveQuiz.Analytics.Context
import AdaptiveQuiz.Journal.Entry
import AdaptiveQuiz.Settings

/-!
# Manifests

A manifest describes one version of a question type: which documents it has, how they become flows,
and how a completed session is analysed.

## Main definitions

* `Binding`, `Manifest`
* `Manifest.create?`: a manifest made of unchecked parts
* `Manifest.key`: the name of a manifest, with its version
-/

namespace AdaptiveQuiz

/-- How a document becomes a flow. -/
inductive Binding where
  | singleChoice
  | branching
  | declarative
deriving DecidableEq, Repr

namespace Binding

/-- The word for a binding. -/
def word : Binding → String
  | .singleChoice => "single_choice"
  | .branching => "branching"
  | .declarative => "declarative"

/-- The kind of document that a binding needs. -/
def documentKind : Binding → DocumentKind
  | .singleChoice => .multipleChoice
  | .branching => .branching
  | .declarative => .declarative

end Binding

/-- Computes the record of a completed session from its document, its journal and the context. -/
abbrev AnalyticsFunction :=
  Settings → Document → List LogEntry → SessionContext → Except AnalyticsFailure AnalyticsRecord

/-- One version of a question type. -/
structure Manifest where
  id : String
  version : Int
  name : String
  description : String
  documentKind : DocumentKind
  binding : Binding
  analytics : AnalyticsFunction
  id_ne_empty : id ≠ ""
  one_le_version : 1 ≤ version

/-- Why a manifest cannot be made. -/
inductive ManifestError where
  | emptyId
  | badVersion (version : Int)
deriving DecidableEq, Repr

namespace ManifestError

/-- The error in words. -/
def message : ManifestError → String
  | .emptyId => "Manifest id cannot be empty"
  | .badVersion version => "Manifest version must be >= 1 (got " ++ toString version ++ ")"

end ManifestError

namespace Manifest

/-- A manifest made of unchecked parts. -/
def create? (id : String) (version : Int) (name description : String) (documentKind : DocumentKind)
    (binding : Binding) (analytics : AnalyticsFunction) : Except ManifestError Manifest :=
  if hId : id = "" then .error .emptyId
  else if hVersion : 1 ≤ version then
    .ok ⟨id, version, name, description, documentKind, binding, analytics, hId, hVersion⟩
  else .error (.badVersion version)

/-- An id with a version. The version is written in full: a limit on written digits is not
modelled. -/
def keyOf (id : String) (version : Int) : String := id ++ ":" ++ toString version

/-- The name of a manifest, with its version. -/
def key (manifest : Manifest) : String := keyOf manifest.id manifest.version

end Manifest

end AdaptiveQuiz
