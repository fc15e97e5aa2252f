import AdaptiveQuiz.Analytics.Heuristics
import AdaptiveQuiz.Settings

/-!
# Analytics of single choice questions

The answer is the option submitted last; it alone decides whether the session was correct.

## Main definitions

* `Analytics.singleChoice`: the record of a session on a multiple choice document
-/

namespace AdaptiveQuiz.Analytics

/-- What a result changes about mastery. -/
def singleChoiceStep : Binary64 := .ofDecimal false 5 (-2)

/-- The option that was submitted last, if its entry names one. -/
def submittedOption (log : List LogEntry) : Except AnalyticsFailure (Option Json) :=
  match lastOf log [.submitStage] with
  | none => .ok none
  | some entry =>
    match entry.payload with
    | .object fields => .ok (Fields.get? fields "option_id")
    | value => .error (.notAnObject value.kind)

/-- The choice that a submitted option names. -/
def selectedChoice (document : MultipleChoiceDocument) : Option Json → Option Choice
  | some (.text id) => if id = "" then none else document.choice? id
  | _ => none

/-- A text of the metadata, or a default if there is none. -/
def metadataText (document : MultipleChoiceDocument) (name default : String) : String :=
  ((Fields.get? document.metadata name).map Json.display).getD default

/-- The first text that is given and not empty. -/
def nameOr (name : Option String) (default : String) : String :=
  match name with
  | some name => if name = "" then default else name
  | none => default

/-- The record of a session on a multiple choice document. -/
def singleChoiceRecord (settings : Settings) (document : MultipleChoiceDocument)
    (log : List LogEntry) (context : SessionContext) (terminal : LogEntry)
    (selected : Option Choice) : Except AnalyticsFailure AnalyticsRecord := do
  let isCorrect := selected.any fun choice => choice.id == document.correctId
  let elapsed ← timeSpent log
  let expected := settings.expectedDuration
  let attemptNumber := context.history.length + 1
  let failing := wasFailingRecently context.history
  let before := masteryBefore context.history
  let rating ← speedRating elapsed expected
  return {
    schemaVersion := 1
    questionId := nameOr document.id ("q_" ++ toString terminal.timestamp)
    sessionId := context.sessionId
    atomId := metadataText document "atom_id" "UNKNOWN_ATOM"
    timestamp := terminal.timestamp
    studentAnswer := .text ((selected.map Choice.text).getD "NO_ANSWER")
    correctAnswer := .text (((document.choice? document.correctId).map Choice.text).getD "UNKNOWN")
    isCorrect := isCorrect
    timeSpent := elapsed
    speedRating := rating
    attemptNumber := attemptNumber
    diagnosticTag :=
      if isCorrect then none else some (metadataText document "error_tag" "GENERAL_ERROR")
    isRecovered := failing && isCorrect
    recoveryVelocity := recoveryVelocity context.history isCorrect
    suggestedIntervention := suggestedIntervention isCorrect attemptNumber failing
    cognitiveLoad :=
      cognitiveLoad (countOf log [.selectOption, .answerSelect]) 0 elapsed expected
    distractionScore := distractionScore log
    focusConsistency := focusConsistency log
    confidenceGap := confidenceGap before isCorrect
    correctnessPattern := correctnessPattern context.history isCorrect
    conceptualCohesion := []
    masteryBefore := before
    masteryAfter := masteryAfter before isCorrect singleChoiceStep singleChoiceStep
    spaceRepetitionDue :=
      spaceRepetitionDue terminal.timestamp isCorrect settings.repetitionInterval
    dataQuality := dataQuality elapsed settings.anomalyThreshold }

/-- The record of a session on a document, which has to be a multiple choice one. -/
def singleChoice (settings : Settings) (document : Document) (log : List LogEntry)
    (context : SessionContext) : Except AnalyticsFailure AnalyticsRecord := do
  let terminal ← terminalEvent log
  let optionId ← submittedOption log
  match document with
  | .multipleChoice document =>
    singleChoiceRecord settings document log context terminal (selectedChoice document optionId)
  | other => .error (.documentLacks other.kind "get_option")

end AdaptiveQuiz.Analytics
