import AdaptiveQuiz.Catalog.Routing
import AdaptiveQuiz.Session.Basic

/-!
# Starting sessions

A session is started on a raw question: its type is determined, its manifest looked up, the question
is reviewed and made into a flow. Only when all of this has succeeded the session listens to the
host.

## Main definitions

* `SessionOptions`, `StartError`, `StartFailure`
* `Session.prepare?`: everything that may fail
* `Session.start?`
-/

namespace AdaptiveQuiz

open Schema

/-- How a session is to run. -/
structure SessionOptions where
  context : SessionContext
  isPreview : Bool
  /-- How many incorrect submissions on a stage lead to its remediation, if not as set. -/
  attemptsBeforeRepair : Option Int
  environment : Option Environment
  clock : Clock

/-- Why a session does not start. -/
inductive StartError where
  /-- The question names no type. -/
  | unrouted (error : RoutingError)
  /-- There is no manifest for the type. -/
  | unknownType (error : UnknownType)
  /-- The question is not a document of its type. -/
  | invalid (remarks : List Remark)
  /-- The document does not become a flow. -/
  | unbuilt (error : BuildError)
  /-- The flow does not compile. -/
  | uncompiled (findings : List Finding)
  /-- The flow cannot be walked through. -/
  | untraversable (error : TraversalError)
deriving DecidableEq, Repr

/-- The error in words; where there are issues instead, the text is empty. -/
def StartError.message : StartError → String
  | .unrouted error => error.message
  | .unknownType error => error.message
  | .invalid remarks => Verdict.failureMessage remarks
  | .unbuilt error => error.message
  | .uncompiled findings => Compilation.failureMessage findings
  | .untraversable error => error.message

/-- A start that failed. -/
structure StartFailure where
  error : StartError
  /-- The host as the start leaves it. -/
  environment : Option Environment

namespace Session

/-- The registry to use: the one given, unless it has no manifests. -/
def chooseRegistry (shared : Registry) : Option Registry → Registry
  | none => shared
  | some registry => if registry.size = 0 then shared else registry

/-- A session on a document at the start of its flow, which does not listen to the host yet. -/
def prepare (settings : Settings) (options : SessionOptions) (manifest : Manifest)
    (document : Document) (traversal : Traversal) : Session where
  settings := settings
  manifest := manifest
  document := document
  context := options.context
  isPreview := options.isPreview
  threshold := options.attemptsBeforeRepair.getD settings.attemptsBeforeRepair
  traversal := traversal
  misses := []
  result := none
  recorder := .empty
  environment := options.environment
  clock := options.clock
  isLeft := false
  notices := []

/-- The event that a question is shown. -/
def viewed (manifest : Manifest) : Event :=
  ⟨.view, .object [("question_type", .text manifest.key)]⟩

/-- The session listening to the host, with the question shown. -/
def begin (session : Session) : Session := session.openCapture.note (viewed session.manifest)

/-- The manifest for a raw question. -/
def manifestFor (registry : Registry) (question : Json) : Except StartError Manifest := do
  let (id, version) ← (Routing.resolve question).mapError .unrouted
  (registry.require id version).mapError .unknownType

/-- The document of a raw question under a manifest. -/
def documentFor (manifest : Manifest) (question : Json) : Except StartError Document :=
  (Document.review manifest.documentKind question).unwrap.mapError .invalid

/-- The flow of a document under a manifest. -/
def flowFor (manifest : Manifest) (document : Document) : Except StartError Flow := do
  let compilation ← (manifest.buildFlow document).mapError .unbuilt
  compilation.unwrap.mapError .uncompiled

/-- A session on a raw question at the start of its flow. It does not listen to the host yet. -/
def prepare? (settings : Settings) (shared : Registry) (given : Option Registry)
    (options : SessionOptions) (question : Json) : Except StartError Session := do
  let manifest ← manifestFor (chooseRegistry shared given) question
  let document ← documentFor manifest question
  let flow ← flowFor manifest document
  let traversal ← (Traversal.start? flow).mapError .untraversable
  return prepare settings options manifest document traversal

/-- Starts a session on a raw question. The host is turned to only after the last step that may
fail. -/
def start? (settings : Settings) (shared : Registry) (given : Option Registry)
    (options : SessionOptions) (question : Json) : Except StartFailure Session :=
  match prepare? settings shared given options question with
  | .ok session => .ok session.begin
  | .error error => .error ⟨error, options.environment⟩

end Session

end AdaptiveQuiz
