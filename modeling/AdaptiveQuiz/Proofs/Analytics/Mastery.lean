import AdaptiveQuiz.Proofs.Analytics.Measures
import AdaptiveQuiz.Proofs.Numeric.Nearness

/-!
# Mastery from one attempt to the next

A record tells of a mastery before and after the attempt. The one before is what was known last, and
the one after is a step up or down from it, cut off at zero and one. As an attempt among the earlier
ones, the record is what is known last the next time.

## Main definitions

* `AnalyticsRecord.attempt`: what a later session is told of a record
* `AtomAttempt.toJson`: an earlier attempt as it is handed to a session

## Main statements

* `Analytics.masteryBefore_concat`: what is known after one attempt more
* `Analytics.Measured.rises`, `Analytics.Measured.falls`: the direction of a step
* `AtomAttempt.accepted_concat`: a history that is accepted with one attempt more
-/

namespace AdaptiveQuiz

open Schema

/-- What a later session is told of a record. -/
def AnalyticsRecord.attempt (record : AnalyticsRecord) : AtomAttempt :=
  ⟨record.isCorrect, some record.masteryAfter⟩

namespace Analytics

/-! ## Steps -/

theorem isStep_singleChoiceStep : singleChoiceStep.IsStep := by decide +kernel

theorem isStep_multiStageStep : multiStageStep.IsStep := by decide +kernel

theorem masteryAfter_eq_clamped (before : Binary64) (isCorrect : Bool) (step : Binary64) :
    masteryAfter before isCorrect step step
      = (if isCorrect then before.add step else before.sub step).clamped := rfl

variable {settings : Settings} {log : List LogEntry} {context : SessionContext}
  {record : AnalyticsRecord}

/-- The steps of both kinds of analytics can be noticed. -/
theorem Measured.exists_step (h : Measured settings log context record) :
    ∃ step : Binary64, step.IsStep ∧ record.masteryAfter
      = (if record.isCorrect then record.masteryBefore.add step
        else record.masteryBefore.sub step).clamped := by
  obtain ⟨step, hstep, hafter⟩ := h.masteryAfter_eq
  rw [masteryAfter_eq_clamped] at hafter
  refine ⟨step, ?_, hafter⟩
  -- the steps are rewritten, as substituting them would have them computed
  rcases hstep with hsingle | hmulti
  · rw [hsingle]
    exact isStep_singleChoiceStep
  · rw [hmulti]
    exact isStep_multiStageStep

/-- A right answer does not lower the mastery. -/
theorem Measured.rises (h : Measured settings log context record)
    (hbefore : record.masteryBefore.InUnit) (hcorrect : record.isCorrect = true) :
    record.masteryBefore.atMost record.masteryAfter = true := by
  obtain ⟨step, hstep, hafter⟩ := h.exists_step
  rw [hafter, if_pos hcorrect]
  exact Binary64.atMost_clamped_add hbefore hstep

/-- A wrong answer does not raise it. -/
theorem Measured.falls (h : Measured settings log context record)
    (hbefore : record.masteryBefore.InUnit) (hwrong : record.isCorrect = false) :
    record.masteryAfter.atMost record.masteryBefore = true := by
  obtain ⟨step, hstep, hafter⟩ := h.exists_step
  rw [hafter, if_neg (by rw [hwrong]; exact Bool.false_ne_true)]
  exact Binary64.clamped_sub_atMost hbefore hstep

theorem Measured.inUnit_after (h : Measured settings log context record) :
    record.masteryAfter.InUnit := by
  obtain ⟨step, -, hafter⟩ := h.masteryAfter_eq
  rw [hafter]
  exact inUnit_masteryAfter _ _ _ _

/-! ## The attempt before -/

/-- After an attempt of which the mastery is known, nothing before it counts. -/
theorem masteryBefore_concat (history : List AtomAttempt) (isCorrect : Bool) (mastery : Binary64) :
    masteryBefore (history ++ [⟨isCorrect, some mastery⟩]) = mastery := by
  simp [masteryBefore]

end Analytics

/-! ## Histories that are accepted -/

namespace AtomAttempt

/-- An earlier attempt with all its fields. -/
def toJson (attempt : AtomAttempt) : Json :=
  .object [("is_correct", .bool attempt.isCorrect),
    ("mastery_after", .ofOption .number attempt.masteryAfter)]

theorem recovers {attempt : AtomAttempt}
    (h : ∀ mastery, attempt.masteryAfter = some mastery → mastery.InUnit) :
    Recovers AtomAttempt.schema attempt.toJson attempt :=
  recovers_object (by simp) fun _ _ hdumped => AtomAttempt.schema_eq_accepted.mpr ⟨_, rfl,
    hdumped.required_eq rfl (recovers_boolean attempt.isCorrect),
    hdumped.optionalNullable_eq_of_mem rfl fun mastery hmem => recovers_fraction (h mastery hmem)⟩

variable {vs : List Json} {history : List AtomAttempt} {attempt : AtomAttempt}

/-- What an accepted history tells of a mastery lies between zero and one. -/
theorem inUnit_of_history (h : listOf AtomAttempt.schema (.array vs) = .accepted history) :
    ∀ attempt ∈ history, ∀ mastery, attempt.masteryAfter = some mastery → mastery.InUnit := by
  obtain ⟨items, -, hitems⟩ := arrayOf_eq_accepted.mp h
  intro attempt hattempt mastery hmastery
  obtain ⟨item, -, hitem⟩ := exists_item_of_forall₂ hitems hattempt
  exact inUnit_of_schema hitem hmastery

/-- A history is accepted with one attempt more, if its mastery lies between zero and one. -/
theorem accepted_concat (h : listOf AtomAttempt.schema (.array vs) = .accepted history)
    (hattempt : ∀ mastery, attempt.masteryAfter = some mastery → mastery.InUnit) :
    listOf AtomAttempt.schema (.array (vs ++ [attempt.toJson]))
      = .accepted (history ++ [attempt]) := by
  obtain ⟨items, heq, hitems⟩ := arrayOf_eq_accepted.mp h
  obtain rfl : vs = items := Json.array.inj heq
  have hlast : AtomAttempt.schema attempt.toJson = .accepted attempt :=
    (recovers hattempt).accepted .full
  exact arrayOf_eq_accepted.mpr ⟨_, rfl, List.rel_append hitems (.cons hlast .nil)⟩

end AtomAttempt

end AdaptiveQuiz
