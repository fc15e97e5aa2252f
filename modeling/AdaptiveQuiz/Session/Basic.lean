import AdaptiveQuiz.Catalog.Binding
import AdaptiveQuiz.Catalog.Registry
import AdaptiveQuiz.Flow.Traversal
import AdaptiveQuiz.Journal.Clock

/-!
# Sessions

A session is one learner working through one question. It drives a traversal, keeps the journal,
counts incorrect submissions, and holds back an edge to remediation until enough of them were made.
It listens to the host from its start until the question is completed or the session is left.

## Main definitions

* `SubmissionResult`, `StepResult`
* `Session`
* `Session.select`, `Session.submit`, `Session.emit`, `Session.leave`, `Session.abort`
-/

namespace AdaptiveQuiz

open Schema

/-- What a completed session hands back. -/
structure SubmissionResult where
  isCorrect : Bool
  completion : Completion
  /-- The record, unless the session was a preview or the analytics failed. -/
  analytics : Option AnalyticsRecord
  /-- Why the analytics failed, if it did. -/
  analyticsError : Option String
deriving DecidableEq, Repr

/-- What one submission comes to. -/
structure StepResult where
  stageId : String
  optionId : String
  isCorrect : Bool
  feedback : Option String
  /-- The action that was applied, which is a loop if remediation was held back. -/
  action : Action
  /-- The stage shown afterwards. -/
  currentStageId : String
  /-- The incorrect submissions on the stage so far. -/
  attempts : Nat
  completed : Option SubmissionResult
deriving DecidableEq, Repr

/-- One learner working through one question. -/
structure Session where
  settings : Settings
  manifest : Manifest
  document : Document
  context : SessionContext
  isPreview : Bool
  /-- How many incorrect submissions on a stage lead to its remediation. -/
  threshold : Int
  traversal : Traversal
  /-- The stages of all incorrect submissions, in order. -/
  misses : List String
  result : Option SubmissionResult
  recorder : Recorder
  environment : Option Environment
  clock : Clock
  isLeft : Bool
  notices : List Notice

namespace Session

/-! ## Queries -/

/-- The stage shown. -/
def currentStage (session : Session) : Stage := session.traversal.current

/-- Whether the question is completed. -/
def isComplete (session : Session) : Bool := session.result.isSome

/-- The incorrect submissions on a stage so far. -/
def attempts (session : Session) (stageId : String) : Nat := session.misses.count stageId

/-- The journal. -/
def log (session : Session) : List LogEntry := session.recorder.entries

/-- How many listeners the host has, if there is one. -/
def listenerCount (session : Session) : Option Nat := session.environment.map (·.count none)

/-! ## The journal and the host -/

/-- The number under which the recorder of a session listens. -/
def recorderId : Nat := 0

/-- Writes an event into the journal. The clock is read for it. -/
def note (session : Session) (event : Event) : Session :=
  { session with
    recorder := session.recorder.note session.clock.now event
    clock := session.clock.tick }

/-- Writes events into the journal. -/
def noteAll (session : Session) (events : List Event) : Session := events.foldl note session

/-- Opens the capture: the first entry is made, then the host is listened to. -/
def openCapture (session : Session) : Session :=
  let mounted := session.note Recorder.mounted
  { mounted with
    recorder := { mounted.recorder with capture := .opened session.environment.isSome }
    environment := session.environment.map (·.attach recorderId) }

/-- Closes the capture, if it is open. -/
def closeCapture (session : Session) : Session :=
  match session.recorder.capture with
  | .opened _ =>
    { session with
      recorder := { session.recorder with capture := .closed }
      environment := session.environment.map (·.detach recorderId) }
  | .closed | .stuck => session

/-- Hears an event of the host through one listener, if it is one of its own. -/
def hear (detail : Fields) (session : Session) : Listener → Session
  | .recorder id signal =>
    if id = recorderId then session.note (signal.event detail) else session
  | .host _ => session

/-- Delivers an event of the host to those who listen to it. -/
def emit (session : Session) (event : String) (detail : Fields) : Session :=
  match session.environment with
  | none => session
  | some environment => (environment.hearers event).foldl (hear detail) session

/-- Lets time pass, or go back. -/
def advance (session : Session) (milliseconds : Int) : Session :=
  { session with clock := session.clock.advance milliseconds }

/-- Makes an entry of unchecked parts. The clock is read before they are checked. -/
def logUnchecked (session : Session) (kind payload : Json) : Session × Checked LogEntry :=
  match LogEntry.check kind payload (.integer session.clock.now) with
  | .accepted entry =>
    ({ session with
      recorder := session.recorder.append entry
      clock := session.clock.tick }, .accepted entry)
  | .rejected first others =>
    ({ session with clock := session.clock.tick }, .rejected first others)

/-- Tries to open and at once close a second capture. It is refused while the first one is open. -/
def recapture (session : Session) : Option Session :=
  if session.recorder.isCapturing then none else some session.openCapture.closeCapture

/-- Adds a notice to the service log. -/
def report (session : Session) (notice : Notice) : Session :=
  { session with notices := session.notices ++ [notice] }

/-! ## Answering -/

/-- Selects an option of the stage shown. -/
def select (session : Session) (optionId : String) : Session × Except TraversalError Unit :=
  match session.traversal.select optionId with
  | .ok event => (session.note event, .ok ())
  | .error error => (session, .error error)

/-- The analytics of a completed session: a record, or why there is none. -/
def analyze (session : Session) : Except AnalyticsFailure AnalyticsRecord :=
  session.manifest.analytics session.settings session.document session.log session.context

/-- Computes the result of a completed session, and notices if there is no record. -/
def conclude (session : Session) (completion : Completion) : Session × SubmissionResult :=
  if session.isPreview then
    (session.report (.previewed session.manifest.key),
      ⟨completion.isCorrect, completion, none, none⟩)
  else
    match session.analyze with
    | .ok record => (session, ⟨completion.isCorrect, completion, some record, none⟩)
    | .error failure =>
      (session.report (.analyticsFailed session.manifest.key failure.message),
        ⟨completion.isCorrect, completion, none, some failure.message⟩)

/-- Completes a session: the last entry is made, the host is no longer listened to, and the result
is computed. -/
def finalize (session : Session) (completion : Completion) : Session × SubmissionResult :=
  let closed := (session.note ⟨.submit, completion.toJson⟩).closeCapture
  let (concluded, result) := closed.conclude completion
  ({ concluded with result := some result }, result)

/-- Counts a submission on the stage shown, if it is incorrect. -/
def countMiss (session : Session) (isCorrect : Bool) : Session :=
  if isCorrect then session
  else { session with misses := session.misses ++ [session.currentStage.id] }

/-- The action to apply: remediation is held back as long as there were too few incorrect
submissions on the stage shown. -/
def gate (session : Session) (submitted : Submitted) : Action :=
  if submitted.option.nextSource = some .attemptsExceeded
      ∧ (session.attempts session.currentStage.id : Int) < session.threshold then .loop
  else submitted.action

/-- Submits an option of the stage shown and applies its action. -/
def submit (session : Session) (optionId : String) : Session × Except TraversalError StepResult :=
  match session.traversal.submit optionId with
  | .error error => (session, .error error)
  | .ok submitted =>
    let stage := session.currentStage
    let isCorrect := stage.isCorrect submitted.option
    -- the submission at hand counts when remediation is gated
    let counted := (session.note submitted.event).countMiss isCorrect
    let action := counted.gate submitted
    let applied := counted.traversal.apply (.action action)
    let moved := { counted with traversal := applied.traversal }.noteAll applied.events
    let step (session : Session) (completed : Option SubmissionResult) : StepResult :=
      ⟨stage.id, optionId, isCorrect, submitted.option.feedback, action, session.currentStage.id,
        session.attempts stage.id, completed⟩
    match applied.answer with
    -- what was noted and counted stays, even though the action failed
    | .error error => (moved, .error error)
    | .ok none => (moved, .ok (step moved none))
    | .ok (some completion) =>
      let (done, result) := moved.finalize completion
      (done, .ok (step done (some result)))

/-! ## Leaving -/

/-- Leaves the session by an error of the caller: the host is no longer listened to. -/
def abort (session : Session) : Session :=
  if session.isLeft then session else { session.closeCapture with isLeft := true }

/-- Leaves the session. That the question is not completed is noticed. -/
def leave (session : Session) : Session :=
  if session.isLeft then session
  else
    let left := session.abort
    if left.isComplete then left
    else left.report (.abandoned session.context.sessionId session.currentStage.id)

end Session

end AdaptiveQuiz
