import AdaptiveQuiz.Proofs.Session.Replies

/-!
# How a question is completed

A question is completed by one submission, which exits the flow. Before it there is no result, and
after it no submission is accepted, so the step of this submission is the last one that is told. What
is called later may still add entries to the journal, but it changes neither the result nor what the
result was computed from.

## Main definitions

* `Session.Active`: a question that is not completed yet
* `Session.CompletedBy`: a run that was completed by one of its calls

## Main statements

* `Session.active_or_completedBy`: a run is completed by one call or not at all
* `Session.CompletedBy.exits`: the call that completes a question exits the flow
* `Session.CompletedBy.result_eq`: the result is computed when the last entry is made
* `Session.completedBy_of_result`: where there is a result, a call has completed the question
-/

namespace AdaptiveQuiz

open SessionReply

namespace Session

variable {session before after : Session} {optionId : String} {submitted : Submitted}
  {completion : Completion} {step : StepResult} {calls first rest : List SessionCall}

/-- As long as a question is not completed, there is no result. -/
def Active (session : Session) : Prop :=
  session.traversal.completion = none ∧ session.result = none

/-- A run that was completed by a submission, before and after which there are other calls. Those
after it only added entries. -/
structure CompletedBy (session : Session) (calls first rest : List SessionCall) (optionId : String)
    (submitted : Submitted) (completion : Completion) (step : StepResult) : Prop where
  calls_eq : calls = first ++ .submit optionId :: rest
  active : (session.run first).1.Active
  stepped : Stepped (session.run first).1 optionId submitted (some completion)
    (session.run (first ++ [.submit optionId])).1 step
  steps_eq : steps (session.run calls).2 = steps (session.run first).2 ++ [step]
  adds : Adds (fun kind => ∃ call ∈ rest, call.Writes kind)
    (session.run (first ++ [.submit optionId])).1 (session.run calls).1

/-! ## Before the completion -/

theorem active_begin {flow : Flow} (h : Begins flow session) : session.Active :=
  ⟨h.completion_eq, h.result_eq⟩

theorem Active.of_adds {writes : EventKind → Prop} (h : before.Active)
    (hadds : Adds writes before after) : after.Active := by
  obtain ⟨entries, hobserves, -⟩ := hadds
  rwa [Active, hobserves.traversal_eq, hobserves.result_eq]

theorem Active.of_stepped (h : before.Active)
    (hstepped : Stepped before optionId submitted none after step) : after.Active := by
  refine ⟨hstepped.answers.step.completion_eq_of_none.trans h.1, ?_⟩
  rw [hstepped.result_eq, hstepped.completed_eq, h.2]
  rfl

/-! ## From the completion on -/

namespace CompletedBy

theorem snoc {call : SessionCall}
    (h : CompletedBy session calls first rest optionId submitted completion step)
    (hadds : Adds call.Writes (session.run calls).1 ((session.run calls).1.perform call).1)
    (hnone : ((session.run calls).1.perform call).2.step? = none) :
    CompletedBy session (calls ++ [call]) first (rest ++ [call]) optionId submitted completion
      step where
  calls_eq := by rw [h.calls_eq, List.append_assoc, List.cons_append]
  active := h.active
  stepped := h.stepped
  steps_eq := by rw [run_snoc, steps_snoc_of_step?_none hnone, h.steps_eq]
  adds := by
    rw [run_snoc session calls]
    -- both parts write what some call after the completion writes
    refine (h.adds.mono ?_).trans (hadds.mono ?_)
    · rintro kind ⟨call', hcall, hwrites⟩
      exact ⟨call', List.mem_append_left _ hcall, hwrites⟩
    · intro kind hwrites
      exact ⟨call, List.mem_append_right _ (List.mem_singleton_self _), hwrites⟩

/-- Nothing that is called later takes the completion back. -/
theorem ended (h : CompletedBy session calls first rest optionId submitted completion step) :
    (session.run calls).1.traversal.completion = some completion := by
  obtain ⟨entries, hobserves, -⟩ := h.adds
  rw [hobserves.traversal_eq]
  exact h.stepped.answers.step.completion_eq

/-- The submission that completes a question exits the flow, and its outcome is the result. -/
theorem exits (h : CompletedBy session calls first rest optionId submitted completion step) :
    ∃ outcome, step.action = .exit outcome
      ∧ completion = (session.run first).1.traversal.completionWith outcome := by
  have hstep := h.stepped.answers.step
  rw [← h.stepped.action_eq] at hstep
  exact hstep.exists_exit

/-- The path of a completion ends with the stage that was left for good, so it is never empty. -/
theorem path_ne_nil (h : CompletedBy session calls first rest optionId submitted completion step) :
    completion.path ≠ [] := by
  obtain ⟨outcome, -, rfl⟩ := h.exits
  exact List.append_ne_nil_of_right_ne_nil _ (List.cons_ne_nil _ _)

theorem isCorrect_iff (h : CompletedBy session calls first rest optionId submitted completion step) :
    completion.isCorrect = true ↔ step.action = .exit (some .pass) := by
  obtain ⟨outcome, haction, rfl⟩ := h.exits
  rw [haction, Action.exit.injEq]
  exact beq_iff_eq

/-- The journal at the completion ends with the submission, its exit and the completion. -/
theorem log_eq (h : CompletedBy session calls first rest optionId submitted completion step) :
    (session.run (first ++ [.submit optionId])).1.log
      = (session.run first).1.log
        ++ [.ofEvent ((session.run first).1.clock.reading 0) submitted.event,
          .ofEvent ((session.run first).1.clock.reading 1)
            ((session.run first).1.traversal.transition (.action step.action))]
        ++ [.ofEvent ((session.run first).1.clock.reading 2) ⟨.submit, completion.toJson⟩] := by
  rw [h.stepped.answers.log_eq, h.stepped.action_eq, List.append_assoc]
  rfl

/-- The result is computed on the journal at the completion, from what the session was set up
with. -/
theorem completed_eq (h : CompletedBy session calls first rest optionId submitted completion step) :
    step.completed = some (session.resultOn (session.run (first ++ [.submit optionId])).1.log
      completion) := by
  rw [h.stepped.completed_eq, Option.map_some]
  exact congrArg some (resultOn_of_setup_eq (session.setup_run first) _ _)

/-- It comes with the step, and it stays. -/
theorem result_eq (h : CompletedBy session calls first rest optionId submitted completion step) :
    (session.run calls).1.result = step.completed := by
  obtain ⟨entries, hobserves, -⟩ := h.adds
  rw [hobserves.result_eq, h.stepped.result_eq, h.completed_eq]
  rfl

/-- The result holds the completion. -/
theorem result_completion {result : SubmissionResult}
    (h : CompletedBy session calls first rest optionId submitted completion step)
    (hresult : (session.run calls).1.result = some result) :
    result.completion = completion ∧ result.isCorrect = completion.isCorrect := by
  obtain ⟨result', hresult', hcompletion⟩ := h.stepped.answers.result_of_ended completion rfl
  obtain ⟨entries, hobserves, -⟩ := h.adds
  rw [hobserves.result_eq, hresult', Option.some.injEq] at hresult
  rwa [← hresult]

end CompletedBy

/-! ## Runs -/

/-- A run is completed by one of its calls, or not at all. -/
theorem active_or_completedBy (hcourse : session.traversal.OnCourse) (hactive : session.Active)
    (calls : List SessionCall) : (session.run calls).1.Active
      ∨ ∃ first rest optionId submitted completion step,
        CompletedBy session calls first rest optionId submitted completion step := by
  -- by induction from the end: the last call comes before the completion, is it, or comes after it
  induction calls using List.reverseRecOn with
  | nil => exact Or.inl hactive
  | append_singleton calls call ih =>
    rcases perform_cases_of_onCourse (onCourse_run hcourse calls) call with
      ⟨hadds, hnone⟩ | ⟨optionId, submitted, completion?, step, rfl, hreply, hstepped⟩
    · rcases ih with hbefore | ⟨first, rest, optionId, submitted, completion, step, hcompleted⟩
      · rw [run_snoc]
        exact Or.inl (hbefore.of_adds hadds)
      · exact Or.inr ⟨first, rest ++ [call], optionId, submitted, completion, step,
          hcompleted.snoc hadds hnone⟩
    · -- what is accepted is submitted before the completion
      have hbefore : (session.run calls).1.Active := by
        refine ih.resolve_right ?_
        rintro ⟨_, _, _, _, completion, _, hcompleted⟩
        have hopen := (Traversal.submit_eq_ok.mp hstepped.submit_eq).1
        rw [hcompleted.ended] at hopen
        cases hopen
      cases completion? with
      | none =>
        rw [run_snoc]
        exact Or.inl (hbefore.of_stepped hstepped)
      | some completion =>
        refine Or.inr ⟨calls, [], optionId, submitted, completion, step,
          ⟨rfl, hbefore, ?_, ?_, Adds.refl _⟩⟩
        · rw [run_snoc]
          exact hstepped
        · rw [run_snoc, hreply, steps_snoc_stepped]

section Started

variable {settings : Settings} {shared : Registry} {given : Option Registry}
  {options : SessionOptions} {question : Json} {result : SubmissionResult}

/-- So it is with every run of a session that was started. -/
theorem active_or_completedBy_of_start?
    (hstart : start? settings shared given options question = .ok session)
    (calls : List SessionCall) : (session.run calls).1.Active
      ∨ ∃ first rest optionId submitted completion step,
        CompletedBy session calls first rest optionId submitted completion step := by
  obtain ⟨flow, hsound, hbegins⟩ := exists_sound_of_start? hstart
  exact active_or_completedBy (Traversal.onCourse_of_start? hsound hbegins.traversal_eq)
    (active_begin hbegins) calls

/-- Where there is a result, a call has completed the question, and the result is computed on the
journal as this call left it. -/
theorem completedBy_of_result
    (hstart : start? settings shared given options question = .ok session)
    (hresult : (session.run calls).1.result = some result) :
    ∃ first rest optionId submitted completion step,
      CompletedBy session calls first rest optionId submitted completion step
      ∧ result = session.resultOn (session.run (first ++ [.submit optionId])).1.log completion := by
  rcases active_or_completedBy_of_start? hstart calls with
    hactive | ⟨first, rest, optionId, submitted, completion, step, hcompleted⟩
  · rw [hactive.2] at hresult
    cases hresult
  · rw [hcompleted.result_eq, hcompleted.completed_eq] at hresult
    exact ⟨first, rest, optionId, submitted, completion, step, hcompleted,
      (Option.some.inj hresult).symm⟩

end Started

end Session

end AdaptiveQuiz
