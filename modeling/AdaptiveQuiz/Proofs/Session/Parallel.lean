import AdaptiveQuiz.Proofs.Session.Step

/-!
# Sessions side by side

Two sessions may run on different documents, or under different manifests, and still be the same to
the learner. What is needed is that they agree on everything that steers a session, that their
journals are alike in some way that appending the same entry to both does not undo, and that their
results are the same on all journals that are alike. Each operation keeps two sessions side by side,
so all replies of a run are the same. Results are compared through a view of them, which may leave
something out.

## Main definitions

* `Session.resultOn`: the result that a session has with a given journal
* `Session.Parallel`: two sessions side by side
* `SessionReply.through`: a reply with a view of the result

## Main statements

* `Session.Parallel.perform`: one call keeps sessions side by side and gets the same reply
* `Session.Parallel.run`: so does a run
-/

namespace AdaptiveQuiz

open Schema

/-- A reply with a view of the result that comes with it, if one does. -/
def SessionReply.through (view : SubmissionResult → SubmissionResult) : SessionReply → SessionReply
  | .stepped step => .stepped { step with completed := step.completed.map view }
  | reply => reply

@[simp] theorem SessionReply.through_id (reply : SessionReply) : reply.through id = reply := by
  cases reply <;> simp [through]

namespace Session

/-- The result of a session that is completed with a given journal. -/
def resultOn (session : Session) (log : List LogEntry) (completion : Completion) :
    SubmissionResult :=
  if session.isPreview then ⟨completion.isCorrect, completion, none, none⟩
  else
    match session.manifest.analytics session.settings session.document log session.context with
    | .ok record => ⟨completion.isCorrect, completion, some record, none⟩
    | .error failure => ⟨completion.isCorrect, completion, none, some failure.message⟩

/-- The result depends on whether there are analytics and on what they say. -/
theorem resultOn_congr {left right : Session} {log log' : List LogEntry}
    (hpreview : left.isPreview = right.isPreview)
    (hanalytics : left.manifest.analytics left.settings left.document log left.context
      = right.manifest.analytics right.settings right.document log' right.context)
    (completion : Completion) : left.resultOn log completion = right.resultOn log' completion := by
  rw [resultOn, resultOn, hpreview, hanalytics]

theorem conclude_snd (session : Session) (completion : Completion) :
    (session.conclude completion).2 = session.resultOn session.log completion := by
  unfold conclude resultOn analyze
  split
  · rfl
  · cases session.manifest.analytics session.settings session.document session.log
      session.context with
    | ok record => rfl
    | error failure => rfl

/-- Two sessions side by side: they agree on what steers them, their journals are alike, and with
such journals their results are the same to the view. -/
structure Parallel (view : SubmissionResult → SubmissionResult)
    (alike : List LogEntry → List LogEntry → Prop) (left right : Session) : Prop where
  threshold_eq : left.threshold = right.threshold
  traversal_eq : left.traversal = right.traversal
  misses_eq : left.misses = right.misses
  result_eq : left.result.map view = right.result.map view
  capture_eq : left.recorder.capture = right.recorder.capture
  environment_eq : left.environment = right.environment
  clock_eq : left.clock = right.clock
  isLeft_eq : left.isLeft = right.isLeft
  log_alike : alike left.log right.log
  append_alike : ∀ log log' entry, alike log log' → alike (log ++ [entry]) (log' ++ [entry])
  view_resultOn : ∀ log log' completion, alike log log' →
    view (left.resultOn log completion) = view (right.resultOn log' completion)

namespace Parallel

variable {view : SubmissionResult → SubmissionResult} {alike : List LogEntry → List LogEntry → Prop}
  {left right : Session}

/-! ## The journal and the host -/

theorem append (h : Parallel view alike left right) (entry : LogEntry) :
    Parallel view alike { left with recorder := left.recorder.append entry }
      { right with recorder := right.recorder.append entry } where
  __ := h
  log_alike := h.append_alike _ _ entry h.log_alike

theorem tick (h : Parallel view alike left right) :
    Parallel view alike { left with clock := left.clock.tick }
      { right with clock := right.clock.tick } where
  __ := h
  clock_eq := congrArg Clock.tick h.clock_eq

theorem note (h : Parallel view alike left right) (event : Event) :
    Parallel view alike (left.note event) (right.note event) := by
  have happend := (h.append (.ofEvent left.clock.now event)).tick
  have hright : right.note event = { right with
      recorder := right.recorder.append (.ofEvent left.clock.now event)
      clock := right.clock.tick } := by
    rw [h.clock_eq]
    rfl
  rw [hright]
  exact happend

/-- The service log is not compared. -/
theorem notices (h : Parallel view alike left right) (notices notices' : List Notice) :
    Parallel view alike { left with notices := notices }
      { right with notices := notices' } where
  __ := h

theorem openCapture (h : Parallel view alike left right) :
    Parallel view alike left.openCapture right.openCapture where
  __ := h.note Recorder.mounted
  capture_eq := by
    show Capture.opened left.environment.isSome = .opened right.environment.isSome
    rw [h.environment_eq]
  environment_eq := by
    show left.environment.map _ = right.environment.map _
    rw [h.environment_eq]
  log_alike := (h.note Recorder.mounted).log_alike

theorem closeCapture (h : Parallel view alike left right) :
    Parallel view alike left.closeCapture right.closeCapture := by
  unfold Session.closeCapture
  rw [← h.capture_eq]
  cases left.recorder.capture with
  | closed => exact h
  | stuck => exact h
  | opened attached =>
    exact { h with
      capture_eq := rfl
      environment_eq := by
        show left.environment.map _ = right.environment.map _
        rw [h.environment_eq] }

theorem hear (h : Parallel view alike left right) (detail : Fields)
    (listener : Listener) : Parallel view alike (Session.hear detail left listener)
      (Session.hear detail right listener) := by
  cases listener with
  | recorder id signal =>
    simp only [Session.hear]
    split
    · exact h.note (signal.event detail)
    · exact h
  | host name => exact h

theorem emit (h : Parallel view alike left right) (event : String) (detail : Fields) :
    Parallel view alike (left.emit event detail) (right.emit event detail) := by
  unfold Session.emit
  rw [← h.environment_eq]
  cases left.environment with
  | none => exact h
  | some environment =>
    -- both hosts tell the same listeners
    simp only
    generalize environment.hearers event = listeners
    induction listeners generalizing left right with
    | nil => exact h
    | cons listener rest ih => exact ih (h.hear detail listener)

theorem advance (h : Parallel view alike left right) (milliseconds : Int) :
    Parallel view alike (left.advance milliseconds) (right.advance milliseconds) where
  __ := h
  clock_eq := by
    show left.clock.advance milliseconds = right.clock.advance milliseconds
    rw [h.clock_eq]

theorem abort (h : Parallel view alike left right) :
    Parallel view alike left.abort right.abort := by
  unfold Session.abort
  rw [← h.isLeft_eq]
  split
  · exact h
  · exact { h.closeCapture with isLeft_eq := rfl }

theorem isComplete_eq (h : Parallel view alike left right) :
    left.isComplete = right.isComplete := by
  have hresult := congrArg Option.isSome h.result_eq
  simpa [isComplete] using hresult

theorem leave (h : Parallel view alike left right) :
    Parallel view alike left.leave right.leave := by
  simp only [Session.leave]
  rw [← h.isLeft_eq, ← h.abort.isComplete_eq]
  split
  · exact h
  · split
    · exact h.abort
    · exact h.abort.notices _ _

/-! ## Answering -/

theorem currentStage_eq (h : Parallel view alike left right) :
    left.currentStage = right.currentStage := by
  rw [currentStage, h.traversal_eq, currentStage]

theorem attempts_eq (h : Parallel view alike left right) (stageId : String) :
    left.attempts stageId = right.attempts stageId := by
  rw [attempts, h.misses_eq, attempts]

theorem countMiss (h : Parallel view alike left right) (isCorrect : Bool) :
    Parallel view alike (left.countMiss isCorrect) (right.countMiss isCorrect) := by
  cases isCorrect with
  | true => exact h
  | false =>
    exact { h with
      misses_eq := by
        show left.misses ++ [left.currentStage.id] = right.misses ++ [right.currentStage.id]
        rw [h.misses_eq, h.currentStage_eq] }

theorem counted (h : Parallel view alike left right) (submitted : Submitted) :
    Parallel view alike (left.counted submitted) (right.counted submitted) := by
  have hnoted := (h.note submitted.event).countMiss
    (left.currentStage.isCorrect submitted.option)
  rw [Session.counted, Session.counted, ← h.currentStage_eq]
  exact hnoted

theorem taken_eq (h : Parallel view alike left right) (submitted : Submitted) :
    left.taken submitted = right.taken submitted := by
  have hcounted := h.counted submitted
  simp only [taken, gate, hcounted.currentStage_eq, hcounted.attempts_eq, hcounted.threshold_eq]

theorem moved (h : Parallel view alike left right) (submitted : Submitted) :
    Parallel view alike (left.moved submitted) (right.moved submitted) := by
  have hmoved : Parallel view alike
      { left.counted submitted with
        traversal := (left.traversal.carryOut (.action (left.taken submitted))).1 }
      { right.counted submitted with
        traversal := (right.traversal.carryOut (.action (right.taken submitted))).1 } :=
    { h.counted submitted with
      traversal_eq := by
        show (left.traversal.carryOut (.action (left.taken submitted))).1
          = (right.traversal.carryOut (.action (right.taken submitted))).1
        rw [h.traversal_eq, h.taken_eq] }
  have hnoted := hmoved.note (left.traversal.transition (.action (left.taken submitted)))
  rw [Session.moved, Session.moved, ← h.traversal_eq, ← h.taken_eq]
  rw [← h.traversal_eq, ← h.taken_eq] at hnoted
  exact hnoted

theorem conclude (h : Parallel view alike left right) (completion : Completion) :
    Parallel view alike (left.conclude completion).1 (right.conclude completion).1
      ∧ view (left.conclude completion).2 = view (right.conclude completion).2 := by
  obtain ⟨notices, hleft⟩ := left.exists_conclude_fst completion
  obtain ⟨notices', hright⟩ := right.exists_conclude_fst completion
  constructor
  · rw [hleft, hright]
    exact h.notices notices notices'
  · rw [conclude_snd, conclude_snd]
    exact h.view_resultOn _ _ completion h.log_alike

theorem finalize (h : Parallel view alike left right) (completion : Completion) :
    Parallel view alike (left.finalize completion).1 (right.finalize completion).1
      ∧ view (left.finalize completion).2 = view (right.finalize completion).2 := by
  have hclosed := (h.note ⟨.submit, completion.toJson⟩).closeCapture
  obtain ⟨hconcluded, hresult⟩ := hclosed.conclude completion
  exact ⟨{ hconcluded with result_eq := congrArg some hresult }, hresult⟩

/-! ## Calls -/

theorem perform_select (h : Parallel view alike left right) (optionId : String) :
    Parallel view alike (left.perform (.select optionId)).1
        (right.perform (.select optionId)).1
      ∧ (left.perform (.select optionId)).2 = (right.perform (.select optionId)).2 := by
  simp only [Session.perform, select]
  rw [← h.traversal_eq]
  cases left.traversal.select optionId with
  | error error => exact ⟨h, rfl⟩
  | ok event => exact ⟨h.note event, rfl⟩

theorem perform_submit (h : Parallel view alike left right) (optionId : String) :
    Parallel view alike (left.perform (.submit optionId)).1
        (right.perform (.submit optionId)).1
      ∧ (left.perform (.submit optionId)).2.through view
        = (right.perform (.submit optionId)).2.through view := by
  simp only [Session.perform]
  cases hsubmit : left.traversal.submit optionId with
  | error error =>
    have hsubmit' := hsubmit
    rw [h.traversal_eq] at hsubmit'
    rw [submit_of_refused hsubmit, submit_of_refused hsubmit']
    exact ⟨h, rfl⟩
  | ok submitted =>
    have hsubmit' := hsubmit
    rw [h.traversal_eq] at hsubmit'
    rw [submit_of_accepted hsubmit, submit_of_accepted hsubmit', ← h.traversal_eq, ← h.taken_eq]
    -- both take the same action, and the same comes of it
    cases (left.traversal.carryOut (.action (left.taken submitted))).2 with
    | error error => exact ⟨h.moved submitted, rfl⟩
    | ok completion? =>
      cases completion? with
      | none =>
        refine ⟨h.moved submitted, ?_⟩
        simp only [SessionReply.through, stepTo, h.currentStage_eq, h.taken_eq,
          (h.moved submitted).currentStage_eq, (h.moved submitted).attempts_eq]
      | some completion =>
        obtain ⟨hfinal, hresult⟩ := (h.moved submitted).finalize completion
        refine ⟨hfinal, ?_⟩
        simp only [SessionReply.through, stepTo, h.currentStage_eq, h.taken_eq,
          hfinal.currentStage_eq, hfinal.attempts_eq, Option.map_some, hresult]

/-- A call keeps two sessions side by side, and gets the same reply from both. -/
theorem perform (h : Parallel view alike left right) (call : SessionCall) :
    Parallel view alike (left.perform call).1 (right.perform call).1
      ∧ (left.perform call).2.through view = (right.perform call).2.through view := by
  cases call with
  | select optionId =>
    obtain ⟨hnext, hreply⟩ := h.perform_select optionId
    exact ⟨hnext, by rw [hreply]⟩
  | submit optionId => exact h.perform_submit optionId
  | emit event detail => exact ⟨h.emit event detail, rfl⟩
  | advance milliseconds => exact ⟨h.advance milliseconds, rfl⟩
  | log kind payload =>
    cases hcheck : LogEntry.check kind payload (.integer left.clock.now) with
    | accepted entry =>
      have hcheck' := hcheck
      rw [h.clock_eq] at hcheck'
      simp only [Session.perform, logUnchecked, hcheck, hcheck', and_true]
      exact (h.append entry).tick
    | rejected first others =>
      have hcheck' := hcheck
      rw [h.clock_eq] at hcheck'
      simp only [Session.perform, logUnchecked, hcheck, hcheck', and_true]
      exact h.tick
  | recapture =>
    have hcapturing : left.recorder.isCapturing = right.recorder.isCapturing := by
      rw [Recorder.isCapturing, h.capture_eq, Recorder.isCapturing]
    simp only [Session.perform, recapture, ← hcapturing]
    cases left.recorder.isCapturing with
    | true => exact ⟨h, rfl⟩
    | false => exact ⟨h.openCapture.closeCapture, rfl⟩
  | leave => exact ⟨h.leave, rfl⟩
  | abort => exact ⟨h.abort, rfl⟩

/-- So does a run. -/
theorem run (h : Parallel view alike left right) (calls : List SessionCall) :
    Parallel view alike (left.run calls).1 (right.run calls).1
      ∧ (left.run calls).2.map (SessionReply.through view)
        = (right.run calls).2.map (SessionReply.through view) := by
  induction calls generalizing left right with
  | nil => exact ⟨h, rfl⟩
  | cons call rest ih =>
    obtain ⟨hnext, hreply⟩ := h.perform call
    obtain ⟨hlast, hreplies⟩ := ih hnext
    refine ⟨hlast, ?_⟩
    rw [run_cons, run_cons, List.map_cons, List.map_cons, hreply, hreplies]

end Parallel

end Session

end AdaptiveQuiz
