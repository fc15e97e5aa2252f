import AdaptiveQuiz.Schema.Record

/-!
# Analytics records

What is reported about one completed session.

## Main definitions

* `SpeedRating`, `CognitiveLoad`, `Intervention`, `CorrectnessPattern`, `DataQuality`
* `AnalyticsRecord`, with `AnalyticsRecord.schema` and `AnalyticsRecord.toJson`
-/

namespace AdaptiveQuiz

open Schema

/-- How fast an answer was, compared with what was expected. -/
inductive SpeedRating where
  | rushed
  | fast
  | steady
  | slow
deriving DecidableEq, Repr

/-- The word for a rating. -/
def SpeedRating.word : SpeedRating → String
  | .rushed => "RUSHED"
  | .fast => "FAST"
  | .steady => "STEADY"
  | .slow => "SLOW"

/-- All ratings. -/
def SpeedRating.all : List SpeedRating := [.rushed, .fast, .steady, .slow]

/-- How much effort an answer seems to have taken. -/
inductive CognitiveLoad where
  | low
  | medium
  | high
deriving DecidableEq, Repr

/-- The word for a load. -/
def CognitiveLoad.word : CognitiveLoad → String
  | .low => "LOW"
  | .medium => "MEDIUM"
  | .high => "HIGH"

/-- All loads. -/
def CognitiveLoad.all : List CognitiveLoad := [.low, .medium, .high]

/-- What should be done for the learner. -/
inductive Intervention where
  | none
  | hint
  | scaffold
  | intervene
deriving DecidableEq, Repr

/-- The word for an intervention. -/
def Intervention.word : Intervention → String
  | .none => "NONE"
  | .hint => "HINT"
  | .scaffold => "SCAFFOLD"
  | .intervene => "INTERVENE"

/-- All interventions. -/
def Intervention.all : List Intervention := [.none, .hint, .scaffold, .intervene]

/-- How the recent results of a learner go. -/
inductive CorrectnessPattern where
  | stable
  | oscillating
  | declining
  | improving
  | random
deriving DecidableEq, Repr

/-- The word for a pattern. -/
def CorrectnessPattern.word : CorrectnessPattern → String
  | .stable => "STABLE"
  | .oscillating => "OSCILLATING"
  | .declining => "DECLINING"
  | .improving => "IMPROVING"
  | .random => "RANDOM"

/-- All patterns. -/
def CorrectnessPattern.all : List CorrectnessPattern :=
  [.stable, .oscillating, .declining, .improving, .random]

/-- Whether the times of a session can be trusted. -/
inductive DataQuality where
  | valid
  | anomaly
deriving DecidableEq, Repr

/-- The word for a quality. -/
def DataQuality.word : DataQuality → String
  | .valid => "VALID"
  | .anomaly => "ANOMALY"

/-- All qualities. -/
def DataQuality.all : List DataQuality := [.valid, .anomaly]

/-- An answer as it is reported: as a text or with details. -/
inductive ReportedAnswer where
  | text (answer : String)
  | details (fields : Fields)
deriving DecidableEq, Repr

/-- A text or an object. What is neither is wrong in two ways. -/
def ReportedAnswer.schema : Schema ReportedAnswer
  | .text answer => .accepted (.text answer)
  | .object fields => .accepted (.details fields)
  | _ => .rejected ⟨[.field "str"], "Input should be a valid string"⟩
    [⟨[.field "dict[str,any]"], "Input should be a valid dictionary"⟩]

/-- A reported answer as a JSON value. -/
def ReportedAnswer.toJson : ReportedAnswer → Json
  | .text answer => .text answer
  | .details fields => .object fields

/-- The report on one completed session. A question without a name is reported by the time of its
last event, which is written in full: a limit on written digits is not modelled. -/
structure AnalyticsRecord where
  schemaVersion : Int
  questionId : String
  sessionId : String
  atomId : String
  timestamp : Int
  studentAnswer : ReportedAnswer
  correctAnswer : ReportedAnswer
  isCorrect : Bool
  timeSpent : Int
  speedRating : SpeedRating
  attemptNumber : Int
  diagnosticTag : Option String
  isRecovered : Bool
  recoveryVelocity : Option Binary64
  suggestedIntervention : Intervention
  cognitiveLoad : CognitiveLoad
  distractionScore : Int
  focusConsistency : Binary64
  confidenceGap : Binary64
  correctnessPattern : Option CorrectnessPattern
  conceptualCohesion : List String
  masteryBefore : Binary64
  masteryAfter : Binary64
  spaceRepetitionDue : Int
  dataQuality : DataQuality
deriving DecidableEq, Repr

/-- A score out of a hundred. The upper end is tested first. -/
def AnalyticsRecord.percentage : Schema Int :=
  bounded (bounded integer (fun n => decide (n ≤ 100)) "Input should be less than or equal to 100")
    (fun n => decide (0 ≤ n)) "Input should be greater than or equal to 0"

/-- A record. -/
def AnalyticsRecord.schema : Schema AnalyticsRecord :=
  record "AnalyticsRecord" fun fields =>
    AnalyticsRecord.mk <$> optional fields "schema_version" integer 1
      <*> required fields "question_id" anyText
      <*> required fields "session_id" anyText
      <*> required fields "atom_id" anyText
      <*> required fields "timestamp" integer
      <*> required fields "student_answer" ReportedAnswer.schema
      <*> required fields "correct_answer" ReportedAnswer.schema
      <*> required fields "is_correct" boolean
      <*> required fields "time_spent" (atLeast 0)
      <*> required fields "speed_rating" (oneOf SpeedRating.all SpeedRating.word)
      <*> required fields "attempt_number" (atLeast 1)
      <*> required fields "diagnostic_tag" (nullable anyText)
      <*> required fields "is_recovered" boolean
      <*> optionalNullable fields "recovery_velocity" real
      <*> required fields "suggested_intervention" (oneOf Intervention.all Intervention.word)
      <*> required fields "cognitive_load" (oneOf CognitiveLoad.all CognitiveLoad.word)
      <*> required fields "distraction_score" percentage
      <*> required fields "focus_consistency" fraction
      <*> optional fields "confidence_gap" real .zero
      <*> optionalNullable fields "correctness_pattern"
        (oneOf CorrectnessPattern.all CorrectnessPattern.word)
      <*> optional fields "conceptual_cohesion" (listOf anyText) []
      <*> required fields "mastery_before" fraction
      <*> required fields "mastery_after" fraction
      <*> required fields "space_repetition_due" integer
      <*> required fields "data_quality" (oneOf DataQuality.all DataQuality.word)

/-- A record with all its fields. -/
def AnalyticsRecord.toJson (record : AnalyticsRecord) : Json :=
  .object [("schema_version", .integer record.schemaVersion),
    ("question_id", .text record.questionId), ("session_id", .text record.sessionId),
    ("atom_id", .text record.atomId), ("timestamp", .integer record.timestamp),
    ("student_answer", record.studentAnswer.toJson),
    ("correct_answer", record.correctAnswer.toJson), ("is_correct", .bool record.isCorrect),
    ("time_spent", .integer record.timeSpent), ("speed_rating", .text record.speedRating.word),
    ("attempt_number", .integer record.attemptNumber),
    ("diagnostic_tag", .ofText? record.diagnosticTag), ("is_recovered", .bool record.isRecovered),
    ("recovery_velocity", .ofOption .number record.recoveryVelocity),
    ("suggested_intervention", .text record.suggestedIntervention.word),
    ("cognitive_load", .text record.cognitiveLoad.word),
    ("distraction_score", .integer record.distractionScore),
    ("focus_consistency", .number record.focusConsistency),
    ("confidence_gap", .number record.confidenceGap),
    ("correctness_pattern", .ofText? (record.correctnessPattern.map CorrectnessPattern.word)),
    ("conceptual_cohesion", .ofTexts record.conceptualCohesion),
    ("mastery_before", .number record.masteryBefore),
    ("mastery_after", .number record.masteryAfter),
    ("space_repetition_due", .integer record.spaceRepetitionDue),
    ("data_quality", .text record.dataQuality.word)]

end AdaptiveQuiz
