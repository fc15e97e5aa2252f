import AdaptiveQuiz.Proofs.Session.Safety
import AdaptiveQuiz.Proofs.Session.Setup
import Mathlib.Data.List.Induction

/-!
# What the replies of a run tell

Whoever makes the calls of a run sees nothing but the replies. Among them are the steps, one for
every submission that was accepted. What is said about a run can be said of its steps: how many
incorrect submissions there were on a stage, which action was applied last, and how the question was
completed. On course every accepted submission is answered by a step, so the steps leave nothing out.

## Main definitions

* `SessionReply.steps`, `SessionReply.missesOn`: the accepted submissions, and the incorrect ones
  among them on a stage
* `Session.Stepped`: an accepted submission, what it leaves, and the step that tells of it

## Main statements

* `Session.perform_cases_of_onCourse`: a call adds entries only, or is a step
* `Session.run_invariant_replies`: what every call of a run keeps, with its reply, is kept by the run
-/

namespace AdaptiveQuiz

/-! ## Steps among replies -/

/-- The step that a reply tells of, if it tells of one. -/
def SessionReply.step? : SessionReply → Option StepResult
  | .stepped step => some step
  | _ => none

/-- Whether a step tells of an incorrect submission on a stage. -/
def StepResult.isMiss (stageId : String) (step : StepResult) : Bool :=
  step.stageId == stageId && !step.isCorrect

namespace SessionReply

/-- The accepted submissions that replies tell of, in order. -/
def steps (replies : List SessionReply) : List StepResult := replies.filterMap step?

/-- How many incorrect submissions on a stage were accepted. -/
def missesOn (stageId : String) (replies : List SessionReply) : Nat :=
  (steps replies).countP (StepResult.isMiss stageId)

variable {replies : List SessionReply} {reply : SessionReply} {step : StepResult} {stageId : String}

theorem step?_eq_some : reply.step? = some step ↔ reply = .stepped step := by
  cases reply <;> simp [step?]

theorem steps_snoc_stepped : steps (replies ++ [.stepped step]) = steps replies ++ [step] := by
  simp [steps, step?]

theorem steps_snoc_of_step?_none (h : reply.step? = none) :
    steps (replies ++ [reply]) = steps replies := by
  simp [steps, h]

theorem missesOn_snoc_stepped : missesOn stageId (replies ++ [.stepped step])
    = missesOn stageId replies + if step.isMiss stageId then 1 else 0 := by
  rw [missesOn, steps_snoc_stepped, List.countP_append, List.countP_singleton, missesOn]

theorem missesOn_snoc_of_step?_none (h : reply.step? = none) :
    missesOn stageId (replies ++ [reply]) = missesOn stageId replies := by
  rw [missesOn, steps_snoc_of_step?_none h, missesOn]

end SessionReply

namespace Session

variable {session before after : Session} {optionId : String} {submitted : Submitted}
  {completion? : Option Completion} {step : StepResult}

/-! ## Accepted submissions -/

/-- A submission that was accepted and went well, what it leaves, and the step that tells of it. The
step comes with a result if the question is completed by it. -/
structure Stepped (before : Session) (optionId : String) (submitted : Submitted)
    (completion? : Option Completion) (after : Session) (step : StepResult) : Prop where
  submit_eq : before.traversal.submit optionId = .ok submitted
  answers : Answers before submitted (.ok completion?) after
  step_eq : step = before.stepTo optionId submitted after step.completed
  completed_eq : step.completed = completion?.map (before.resultOn after.log)
  result_eq : after.result = step.completed.or before.result

namespace Stepped

theorem stageId_eq (h : Stepped before optionId submitted completion? after step) :
    step.stageId = before.currentStage.id := by
  rw [h.step_eq]
  rfl

theorem optionId_eq (h : Stepped before optionId submitted completion? after step) :
    step.optionId = optionId := by
  rw [h.step_eq]
  rfl

theorem isCorrect_eq (h : Stepped before optionId submitted completion? after step) :
    step.isCorrect = before.currentStage.isCorrect submitted.option := by
  rw [h.step_eq]
  rfl

/-- The count that a step tells is the one that is left. -/
theorem attempts_step (h : Stepped before optionId submitted completion? after step) :
    step.attempts = after.attempts step.stageId := by
  rw [h.stageId_eq, h.step_eq]
  rfl

theorem currentStageId_eq (h : Stepped before optionId submitted completion? after step) :
    step.currentStageId = after.currentStage.id := by
  rw [h.step_eq]
  rfl

/-- An incorrect submission counts for the stage that the step names, and nothing else counts. -/
theorem attempts_eq (h : Stepped before optionId submitted completion? after step)
    (stageId : String) :
    after.attempts stageId = before.attempts stageId + if step.isMiss stageId then 1 else 0 := by
  rw [h.answers.attempts_eq, StepResult.isMiss, h.stageId_eq, h.isCorrect_eq]

theorem action_eq (h : Stepped before optionId submitted completion? after step) :
    step.action = before.taken submitted := by
  rw [h.step_eq]
  rfl

/-- The step tells which action was carried out. -/
theorem carryOut_eq (h : Stepped before optionId submitted completion? after step) :
    before.traversal.carryOut (.action step.action) = (after.traversal, .ok completion?) := by
  rw [h.action_eq]
  exact h.answers.step.carryOut_eq

end Stepped

/-- The result is computed on the journal as it is left: nothing is added after the last entry. -/
theorem finalize_snd (session : Session) (completion : Completion) :
    (session.finalize completion).2
      = session.resultOn (session.finalize completion).1.log completion := by
  let closed := (session.note ⟨.submit, completion.toJson⟩).closeCapture
  have hsetup : closed.setup = session.setup := by simp [closed]
  have hlog : (session.finalize completion).1.log = closed.log := by
    obtain ⟨notices, hconclude⟩ := closed.exists_conclude_fst completion
    show (closed.conclude completion).1.log = closed.log
    rw [hconclude]
    rfl
  calc (session.finalize completion).2
      = closed.resultOn closed.log completion := closed.conclude_snd completion
    _ = session.resultOn closed.log completion := resultOn_of_setup_eq hsetup _ _
    _ = _ := by rw [hlog]

/-- On course, a submission is answered by a step if the option is accepted. -/
theorem perform_submit_stepped (h : session.traversal.OnCourse)
    (hsubmit : session.traversal.submit optionId = .ok submitted) :
    ∃ completion? step, (session.perform (.submit optionId)).2 = .stepped step
      ∧ Stepped session optionId submitted completion? (session.perform (.submit optionId)).1
        step := by
  have hanswers := answers_submit hsubmit
  have hok : ∀ error,
      (session.traversal.carryOut (.action (session.taken submitted))).2 ≠ .error error :=
    fun error => h.carryOut_isOk hsubmit (session.taken_eq submitted)
  simp only [perform]
  rw [submit_of_accepted hsubmit] at hanswers ⊢
  cases hanswer : (session.traversal.carryOut (.action (session.taken submitted))).2 with
  | error error => exact absurd hanswer (hok error)
  | ok completion? =>
    rw [hanswer] at hanswers
    cases completion? with
    | none => exact ⟨none, _, rfl, hsubmit, hanswers, rfl, rfl, result_moved⟩
    | some completion =>
      refine ⟨some completion, _, rfl, hsubmit, hanswers, rfl, ?_, rfl⟩
      -- the result is computed by the session that moved, with the setup that was there before
      show some _ = some _
      rw [finalize_snd]
      exact congrArg some (resultOn_of_setup_eq (session.setup_moved submitted) _ _)

/-- Only an accepted submission is answered by a step. -/
theorem accepted_of_reply {call : SessionCall} (hreply : (session.perform call).2 = .stepped step) :
    ∃ optionId submitted, call = .submit optionId
      ∧ session.traversal.submit optionId = .ok submitted := by
  cases call with
  | submit optionId =>
    cases hsubmit : session.traversal.submit optionId with
    | ok submitted => exact ⟨optionId, submitted, rfl, hsubmit⟩
    | error error =>
      rw [perform_submit_of_refused hsubmit] at hreply
      cases hreply
  | select optionId =>
    simp only [perform] at hreply
    split at hreply <;> cases hreply
  | log kind payload =>
    simp only [perform] at hreply
    split at hreply <;> cases hreply
  | recapture =>
    simp only [perform] at hreply
    split at hreply <;> cases hreply
  | emit event detail => cases hreply
  | advance milliseconds => cases hreply
  | leave => cases hreply
  | abort => cases hreply

/-- On course, the step that answers a call tells what it did. -/
theorem stepped_of_reply (h : session.traversal.OnCourse) {call : SessionCall}
    (hreply : (session.perform call).2 = .stepped step) :
    ∃ optionId submitted completion?, call = .submit optionId
      ∧ Stepped session optionId submitted completion? (session.perform call).1 step := by
  obtain ⟨optionId, submitted, rfl, hsubmit⟩ := accepted_of_reply hreply
  obtain ⟨completion?, step', hreply', hstepped⟩ := perform_submit_stepped h hsubmit
  rw [hreply, SessionReply.stepped.injEq] at hreply'
  rw [hreply']
  exact ⟨optionId, submitted, completion?, rfl, hstepped⟩

/-- On course, a call adds entries only and tells of no step, or it is an accepted submission and
tells of it. -/
theorem perform_cases_of_onCourse (h : session.traversal.OnCourse) (call : SessionCall) :
    (Adds call.Writes session (session.perform call).1 ∧ (session.perform call).2.step? = none)
      ∨ ∃ optionId submitted completion? step, call = .submit optionId
        ∧ (session.perform call).2 = .stepped step
        ∧ Stepped session optionId submitted completion? (session.perform call).1 step := by
  cases hstep : (session.perform call).2.step? with
  | some step =>
    have hreply := SessionReply.step?_eq_some.mp hstep
    obtain ⟨optionId, submitted, completion?, hcall, hstepped⟩ := stepped_of_reply h hreply
    exact Or.inr ⟨optionId, submitted, completion?, step, hcall, hreply, hstepped⟩
  | none =>
    rcases session.perform_cases call with hadds | ⟨optionId, submitted, _, rfl, hsubmit, -⟩
    · exact Or.inl ⟨hadds, rfl⟩
    · -- an accepted submission would have been answered by a step
      obtain ⟨_, step, hreply, -⟩ := perform_submit_stepped h hsubmit
      rw [hreply] at hstep
      cases hstep

/-! ## Runs with their replies -/

theorem run_append (session : Session) (first second : List SessionCall) :
    session.run (first ++ second)
      = (((session.run first).1.run second).1,
          (session.run first).2 ++ ((session.run first).1.run second).2) := by
  induction first generalizing session with
  | nil => rfl
  | cons call rest ih => simp only [List.cons_append, run_cons, ih]

theorem run_snoc (session : Session) (calls : List SessionCall) (call : SessionCall) :
    session.run (calls ++ [call])
      = (((session.run calls).1.perform call).1,
          (session.run calls).2 ++ [((session.run calls).1.perform call).2]) := by
  rw [run_append]
  rfl

/-- What every call of a run keeps, with its reply, is kept by the run. -/
theorem run_invariant_replies {P : Session → List SessionReply → Prop} {calls : List SessionCall}
    (hstep : ∀ call ∈ calls, ∀ session replies, P session replies →
      P (session.perform call).1 (replies ++ [(session.perform call).2]))
    (hstart : P session []) : P (session.run calls).1 (session.run calls).2 := by
  -- by induction from the end, since replies are appended
  induction calls using List.reverseRecOn with
  | nil => exact hstart
  | append_singleton calls call ih =>
    rw [run_snoc]
    refine hstep call (by simp) _ _ (ih fun call' hcall => ?_)
    exact hstep call' (List.mem_append_left _ hcall)

end Session

end AdaptiveQuiz
