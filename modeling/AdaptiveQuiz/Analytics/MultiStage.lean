import AdaptiveQuiz.Analytics.SingleChoice

/-!
# Analytics of multi-stage questions

The outcome of the flow decides whether the session was correct, not the first answer. The path that
the learner took is read from the entry that ended the session, or put together from the transitions
if that entry has none.

## Main definitions

* `Analytics.visitedPath`: the path of a session
* `Analytics.lastMisconception`: the diagnostic of the latest wrong answer that has one
* `Analytics.multiStage`: the record of a session on a multi-stage document
-/

namespace AdaptiveQuiz.Analytics

/-- The time expected for each stage visited, in milliseconds. -/
def expectedPerStage : Int := 15000

/-- What a result changes about mastery. -/
def multiStageStep : Binary64 := .ofDecimal false 1 (-1)

/-! ## Details of entries -/

/-- Details that count as given, as an object; nothing given counts as an object without fields. -/
def detailFields (payload : Json) : Except AnalyticsFailure Fields :=
  if payload.isTruthy then
    match payload with
    | .object fields => .ok fields
    | value => .error (.notAnObject value.kind)
  else .ok []

/-- Whether a field is there and counts as given. -/
def isGiven (fields : Fields) (name : String) : Bool :=
  ((Fields.get? fields name).map Json.isTruthy).getD false

/-! ## The path -/

/-- The members of a recorded path: of an array its items, of a text its characters, of an object
its field names. -/
def pathItems : Json → Except AnalyticsFailure (List Json)
  | .array items => .ok items
  | .text s => .ok (s.toList.map fun c => .text (String.ofList [c]))
  | .object fields => .ok (fields.map fun field => .text field.1)
  | value => .error (.pathNotIterable value.kind)

/-- The stage that a transition left. -/
def originOf : Json → Except AnalyticsFailure Json
  | .object fields =>
    match Fields.get? fields "from" with
    | some origin => .ok origin
    | none => .error .originMissing
  | .array _ => .error .originInArray
  | .text _ => .error .originInText
  | value => .error (.originInScalar value.kind)

/-- The stages that the transitions of a journal left, in order. Transitions without details are
passed over. -/
def origins : List LogEntry → Except AnalyticsFailure (List Json)
  | [] => .ok []
  | entry :: log =>
    if entry.kind = .transition ∧ entry.payload.isTruthy then do
      let origin ← originOf entry.payload
      return origin :: (← origins log)
    else origins log

/-- The path of a session. -/
def visitedPath (log : List LogEntry) : Except AnalyticsFailure (List Json) := do
  let terminal ← terminalEvent log
  let fields ← detailFields terminal.payload
  -- an empty path counts as none
  match Fields.get? fields "path" with
  | some path => if path.isTruthy then pathItems path else origins log
  | none => origins log

/-- The id of a remediation stage of a document, if a member of a path is one. -/
def repairVisit? (stages : List Stage) : Json → Except AnalyticsFailure (Option String)
  | .text id => .ok (if (stage? stages id).any Stage.isRepair then some id else none)
  -- stages are looked up by key, which these cannot be
  | .array items => .error (.unhashable (Json.array items).kind)
  | .object fields => .error (.unhashable (Json.object fields).kind)
  | _ => .ok none

/-- The remediation stages on a path. -/
def repairVisits (stages : List Stage) : List Json → Except AnalyticsFailure (List String)
  | [] => .ok []
  | item :: path => do
    let repair ← repairVisit? stages item
    let rest ← repairVisits stages path
    return repair.toList ++ rest

/-- The texts of a path, of which the first has the given index. -/
def pathTexts : Nat → List Json → Except AnalyticsFailure (List String)
  | _, [] => .ok []
  | index, .text s :: path => do return s :: (← pathTexts (index + 1) path)
  | index, value :: _ => .error (.pathItemNotText index value.kind)

/-- A path as a text; a path without stages is incomplete. -/
def pathText (path : List Json) : Except AnalyticsFailure String :=
  if path.isEmpty then .ok "Incomplete" else ("->".intercalate ·) <$> pathTexts 0 path

/-! ## Diagnosis -/

/-- The diagnostic of the first wrong submission in a list of entries that has one. -/
def firstMisconception : List LogEntry → Except AnalyticsFailure (Option String)
  | [] => .ok none
  | entry :: log =>
    if entry.kind = .submitStage ∧ entry.payload.isTruthy then
      match entry.payload with
      | .object fields =>
        match isGiven fields "is_correct", Json.firstTruthy? [Fields.get? fields "diagnostic"] with
        | false, some diagnostic => .ok (some diagnostic.display)
        | _, _ => firstMisconception log
      | value => .error (.notAnObject value.kind)
    else firstMisconception log

/-- The diagnostic of the latest wrong submission that has one. -/
def lastMisconception (log : List LogEntry) : Except AnalyticsFailure (Option String) :=
  firstMisconception log.reverse

/-- What a session says about the learner: on a fail the latest misconception, on a pass the first
remediation, if there was one. -/
def diagnosis (log : List LogEntry) (isCorrect : Bool) (repairs : List String) :
    Except AnalyticsFailure (Option String) :=
  if isCorrect then
    .ok (repairs.head?.map fun repair => "REPAIRED_VIA_" ++ repair)
  else (lastMisconception log).map fun misconception => some (nameOr misconception "FAILED_PATH")

/-! ## The record -/

/-- What a record says of a multi-stage document: its ids and its stages. -/
structure MultiStageView where
  itemId : Option String
  atomId : Option String
  stages : List Stage

/-- The multi-stage view of a document, which must not be a multiple choice one. -/
def multiStageView : Document → Except AnalyticsFailure MultiStageView
  | .branching document => .ok ⟨document.itemId, document.atomId, document.stages⟩
  | .declarative document =>
    .ok ⟨document.itemId, document.atomId, document.stages.map fun stage => stage.toStage⟩
  | .multipleChoice document =>
    .error (.documentLacks (Document.multipleChoice document).kind "stages")

/-- The record of a session on a multi-stage document. -/
def multiStage (settings : Settings) (document : Document) (log : List LogEntry)
    (context : SessionContext) : Except AnalyticsFailure AnalyticsRecord := do
  let terminal ← terminalEvent log
  let fields ← detailFields terminal.payload
  let isCorrect := isGiven fields "is_correct"
  let view ← multiStageView document
  let path ← visitedPath log
  let repairs ← repairVisits view.stages path
  let diagnosticTag ← diagnosis log isCorrect repairs
  let elapsed ← timeSpent log
  let expected := expectedPerStage * (max 1 path.length : Nat)
  let selections := countOf log [.selectOption]
  let submissions := countOf log [.submitStage]
  let before := masteryBefore context.history
  let studentAnswer ← pathText path
  let rating ← speedRating elapsed expected
  return {
    schemaVersion := 1
    questionId := nameOr view.itemId ("branch_" ++ toString terminal.timestamp)
    sessionId := context.sessionId
    atomId := nameOr view.atomId "UNKNOWN"
    timestamp := terminal.timestamp
    studentAnswer := .text studentAnswer
    correctAnswer := .text "Path to Success"
    isCorrect := isCorrect
    timeSpent := elapsed
    speedRating := rating
    attemptNumber := context.history.length + 1
    diagnosticTag := diagnosticTag
    isRecovered := !repairs.isEmpty && isCorrect
    recoveryVelocity := recoveryVelocity context.history isCorrect
    suggestedIntervention := if isCorrect then .none else .intervene
    cognitiveLoad :=
      cognitiveLoad (selections - submissions : Nat) repairs.length elapsed expected
    distractionScore := distractionScore log
    focusConsistency := focusConsistency log
    confidenceGap := confidenceGap before isCorrect
    correctnessPattern := correctnessPattern context.history isCorrect
    conceptualCohesion := []
    masteryBefore := before
    masteryAfter := masteryAfter before isCorrect multiStageStep multiStageStep
    spaceRepetitionDue :=
      spaceRepetitionDue terminal.timestamp isCorrect settings.repetitionInterval
    dataQuality := dataQuality elapsed settings.anomalyThreshold }

end AdaptiveQuiz.Analytics
