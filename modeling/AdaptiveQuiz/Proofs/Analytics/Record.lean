import AdaptiveQuiz.Analytics.Context
import AdaptiveQuiz.Analytics.Record
import AdaptiveQuiz.Proofs.Numeric.Rounding
import AdaptiveQuiz.Proofs.Schema.Dump

/-!
# Records are read back

A record is written down with all its fields. It is read back as the same record if its measures are
where they have to be: times and counts not too small, scores and masteries between their ends.

## Main definitions

* `AnalyticsRecord.WithinBounds`: a record with all measures between their ends

## Main statements

* `Schema.fraction_eq_accepted`: what is accepted as a fraction
* `AnalyticsRecord.schema_toJson`: a record within its bounds passes its own check
* `SessionContext.inUnit_of_schema`: the masteries of a learner whose context was accepted
-/

namespace AdaptiveQuiz

open Schema

/-! ## Fractions -/

/-- What is accepted as a fraction lies between zero and one. -/
theorem Schema.fraction_eq_accepted {v : Json} {x : Binary64} :
    fraction v = .accepted x ↔ real v = .accepted x ∧ x.InUnit := by
  rw [fraction, bounded_eq_accepted, bounded_eq_accepted, and_assoc, Binary64.InUnit,
    and_comm (a := x.atMost .one = true)]

theorem Schema.recovers_fraction {x : Binary64} (h : x.InUnit) : Recovers fraction (.number x) x :=
  ((recovers_real x).bounded h.2 _).bounded h.1 _

/-! ## Words -/

theorem SpeedRating.recovers (rating : SpeedRating) :
    Recovers (oneOf SpeedRating.all SpeedRating.word) (.text rating.word) rating :=
  recovers_oneOf (by cases rating <;> decide) (by cases rating <;> decide)

theorem CognitiveLoad.recovers (load : CognitiveLoad) :
    Recovers (oneOf CognitiveLoad.all CognitiveLoad.word) (.text load.word) load :=
  recovers_oneOf (by cases load <;> decide) (by cases load <;> decide)

theorem Intervention.recovers (intervention : Intervention) :
    Recovers (oneOf Intervention.all Intervention.word) (.text intervention.word) intervention :=
  recovers_oneOf (by cases intervention <;> decide) (by cases intervention <;> decide)

theorem CorrectnessPattern.recovers (pattern : CorrectnessPattern) :
    Recovers (oneOf CorrectnessPattern.all CorrectnessPattern.word) (.text pattern.word) pattern :=
  recovers_oneOf (by cases pattern <;> decide) (by cases pattern <;> decide)

theorem DataQuality.recovers (quality : DataQuality) :
    Recovers (oneOf DataQuality.all DataQuality.word) (.text quality.word) quality :=
  recovers_oneOf (by cases quality <;> decide) (by cases quality <;> decide)

/-! ## Records -/

namespace AnalyticsRecord

/-- A record with all measures between their ends. -/
structure WithinBounds (record : AnalyticsRecord) : Prop where
  timeSpent_nonneg : 0 ≤ record.timeSpent
  one_le_attemptNumber : 1 ≤ record.attemptNumber
  distractionScore_nonneg : 0 ≤ record.distractionScore
  distractionScore_le : record.distractionScore ≤ 100
  focusConsistency_inUnit : record.focusConsistency.InUnit
  masteryBefore_inUnit : record.masteryBefore.InUnit
  masteryAfter_inUnit : record.masteryAfter.InUnit

theorem recovers_percentage {n : Int} (hlow : 0 ≤ n) (hhigh : n ≤ 100) :
    Recovers percentage (.integer n) n :=
  ((recovers_integer n).bounded (decide_eq_true hhigh) _).bounded (decide_eq_true hlow) _

/-- A record within its bounds passes its own check, which changes nothing. -/
theorem schema_toJson {record : AnalyticsRecord} (h : record.WithinBounds) :
    schema record.toJson = .accepted record := by
  obtain ⟨fields, hfields⟩ : ∃ fields, record.toJson = .object fields := ⟨_, rfl⟩
  have hget : ∀ name v, record.toJson.field? name = some v → Fields.get? fields name = some v := by
    rw [hfields]
    exact fun _ _ hfound => hfound
  have hfull := dumped_self fields
  have hanswer (name : String) (answer : ReportedAnswer)
      (hfound : record.toJson.field? name = some answer.toJson) :
      required fields name ReportedAnswer.schema = .accepted answer := by
    refine required_eq_accepted.mpr ⟨_, hget name _ hfound, ?_⟩
    cases answer <;> rfl
  have htag : required fields "diagnostic_tag" (nullable anyText)
      = .accepted record.diagnosticTag := by
    refine required_eq_accepted.mpr ⟨_, hget "diagnostic_tag" _ rfl, ?_⟩
    cases record.diagnosticTag <;> rfl
  -- the fields in the order in which they are checked
  rw [hfields, schema, Schema.record,
    hfull.optional_eq (hget "schema_version" _ rfl) (recovers_integer _),
    hfull.required_eq (hget "question_id" _ rfl) (recovers_anyText _),
    hfull.required_eq (hget "session_id" _ rfl) (recovers_anyText _),
    hfull.required_eq (hget "atom_id" _ rfl) (recovers_anyText _),
    hfull.required_eq (hget "timestamp" _ rfl) (recovers_integer _),
    hanswer "student_answer" _ rfl,
    hanswer "correct_answer" _ rfl,
    hfull.required_eq (hget "is_correct" _ rfl) (recovers_boolean _),
    hfull.required_eq (hget "time_spent" _ rfl) (recovers_atLeast h.timeSpent_nonneg),
    hfull.required_eq (hget "speed_rating" _ rfl) (SpeedRating.recovers _),
    hfull.required_eq (hget "attempt_number" _ rfl) (recovers_atLeast h.one_le_attemptNumber),
    htag,
    hfull.required_eq (hget "is_recovered" _ rfl) (recovers_boolean _),
    hfull.optionalNullable_eq (hget "recovery_velocity" _ rfl) recovers_real,
    hfull.required_eq (hget "suggested_intervention" _ rfl) (Intervention.recovers _),
    hfull.required_eq (hget "cognitive_load" _ rfl) (CognitiveLoad.recovers _),
    hfull.required_eq (hget "distraction_score" _ rfl)
      (recovers_percentage h.distractionScore_nonneg h.distractionScore_le),
    hfull.required_eq (hget "focus_consistency" _ rfl) (recovers_fraction h.focusConsistency_inUnit),
    hfull.optional_eq (hget "confidence_gap" _ rfl) (recovers_real _),
    hfull.optionalWord_eq (hget "correctness_pattern" _ rfl) CorrectnessPattern.recovers,
    hfull.optional_eq (hget "conceptual_cohesion" _ rfl)
      (recovers_listOf fun text _ => recovers_anyText text),
    hfull.required_eq (hget "mastery_before" _ rfl) (recovers_fraction h.masteryBefore_inUnit),
    hfull.required_eq (hget "mastery_after" _ rfl) (recovers_fraction h.masteryAfter_inUnit),
    hfull.required_eq (hget "space_repetition_due" _ rfl) (recovers_integer _),
    hfull.required_eq (hget "data_quality" _ rfl) (DataQuality.recovers _)]
  rfl

end AnalyticsRecord

/-! ## Learner contexts -/

theorem AtomAttempt.schema_eq_accepted {v : Json} {attempt : AtomAttempt} :
    AtomAttempt.schema v = .accepted attempt ↔ ∃ fields, v = .object fields
      ∧ required fields "is_correct" boolean = .accepted attempt.isCorrect
      ∧ optionalNullable fields "mastery_after" fraction = .accepted attempt.masteryAfter := by
  cases attempt
  simp [schema, record_eq_accepted, -Bool.exists_bool]

theorem SessionContext.schema_eq_accepted {v : Json} {context : SessionContext} :
    SessionContext.schema v = .accepted context ↔ ∃ fields, v = .object fields
      ∧ optional fields "user_id" anyText anonymous.userId = .accepted context.userId
      ∧ optional fields "session_id" anyText anonymous.sessionId = .accepted context.sessionId
      ∧ optional fields "atom_history" (listOf AtomAttempt.schema) [] = .accepted context.history := by
  cases context
  simp [schema, record_eq_accepted]

/-- What an accepted attempt tells of a mastery lies between zero and one. -/
theorem AtomAttempt.inUnit_of_schema {v : Json} {attempt : AtomAttempt} {mastery : Binary64}
    (h : AtomAttempt.schema v = .accepted attempt) (hmastery : attempt.masteryAfter = some mastery) :
    mastery.InUnit := by
  obtain ⟨fields, -, -, hknown⟩ := schema_eq_accepted.mp h
  rw [hmastery] at hknown
  rcases optional_eq_accepted.mp hknown with ⟨-, hnone⟩ | ⟨v, -, hv⟩
  · cases hnone
  · exact (fraction_eq_accepted.mp (nullable_eq_some hv)).2

/-- So it is with all attempts in a context that was accepted. -/
theorem SessionContext.inUnit_of_schema {v : Json} {context : SessionContext}
    (h : SessionContext.schema v = .accepted context) {attempt : AtomAttempt}
    (hattempt : attempt ∈ context.history) {mastery : Binary64}
    (hmastery : attempt.masteryAfter = some mastery) : mastery.InUnit := by
  obtain ⟨fields, -, -, -, hhistory⟩ := schema_eq_accepted.mp h
  rcases optional_eq_accepted.mp hhistory with ⟨-, hempty⟩ | ⟨vs, -, hvs⟩
  · rw [← hempty] at hattempt
    cases hattempt
  · obtain ⟨items, -, hitems⟩ := arrayOf_eq_accepted.mp hvs
    obtain ⟨item, -, hitem⟩ := exists_item_of_forall₂ hitems hattempt
    exact AtomAttempt.inUnit_of_schema hitem hmastery

end AdaptiveQuiz
