import AdaptiveQuiz.Proofs.Flow.Traversal
import AdaptiveQuiz.Proofs.Schema.Acceptance
import AdaptiveQuiz.Session.Run

/-!
# What a call does to a session

Most calls only add entries to the journal, of kinds that the call determines. The one exception is
a submission that is accepted: it is noted, counted if it is incorrect, its action is gated and
carried out, and this is noted as well. Here every call is put into one of these two forms, so that
an invariant of sessions needs two cases and not one for every call.

## Main definitions

* `SessionCall.Writes`: the kinds of entries that a call may add
* `Session.Observes`, `Session.Adds`: nothing but entries is added
* `Session.taken`: the action that is carried out for a submission
* `Session.Answers`: what an accepted submission leaves

## Main statements

* `Session.submit_of_refused`, `Session.submit_of_accepted`: a submission, phase by phase
* `Session.perform_cases`: the two forms of a call
* `Session.run_invariant`: what every call of a run keeps is kept by the run
-/

namespace AdaptiveQuiz

open Schema

/-- The kind of an entry made of unchecked parts was given by its word. -/
theorem LogEntry.kind_of_check {kind payload timestamp : Json} {entry : LogEntry}
    (h : LogEntry.check kind payload timestamp = .accepted entry) :
    kind = .text entry.kind.word := by
  simp only [LogEntry.check, LogEntry.schema, record, Checked.seq_eq_accepted,
    Checked.map_eq_accepted] at h
  obtain ⟨_, _, ⟨_, _, ⟨kind', hkind, rfl⟩, _, rfl⟩, _, rfl⟩ := h
  obtain ⟨v, hv, haccepted⟩ := required_eq_accepted.mp hkind
  obtain ⟨-, hword⟩ := oneOf_eq_accepted haccepted
  cases hv
  exact hword

/-- The kinds of entries that a call may add to the journal, apart from what an accepted submission
adds. -/
def SessionCall.Writes : SessionCall → EventKind → Prop
  | .select _, kind => kind = .selectOption
  | .emit _ _, kind => kind = .focus ∨ kind = .blur
  | .log kind' _, kind => kind' = .text kind.word
  | .recapture, kind => kind = .mount
  | .submit _, _ => False
  | .advance _, _ => False
  | .leave, _ => False
  | .abort, _ => False

namespace Session

variable {session before middle after : Session} {submitted : Submitted}

/-! ## Adding entries only -/

/-- A session after something that adds entries to the journal and leaves the question as it is. -/
structure Observes (before after : Session) (entries : List LogEntry) : Prop where
  traversal_eq : after.traversal = before.traversal
  misses_eq : after.misses = before.misses
  result_eq : after.result = before.result
  log_eq : after.log = before.log ++ entries

theorem Observes.refl (session : Session) : Observes session session [] :=
  ⟨rfl, rfl, rfl, by simp⟩

theorem Observes.trans {first second : List LogEntry} (h₁ : Observes before middle first)
    (h₂ : Observes middle after second) : Observes before after (first ++ second) where
  traversal_eq := h₂.traversal_eq.trans h₁.traversal_eq
  misses_eq := h₂.misses_eq.trans h₁.misses_eq
  result_eq := h₂.result_eq.trans h₁.result_eq
  log_eq := by rw [h₂.log_eq, h₁.log_eq, List.append_assoc]

/-- Nothing but entries of some kinds is added. -/
def Adds (writes : EventKind → Prop) (before after : Session) : Prop :=
  ∃ entries, Observes before after entries ∧ ∀ entry ∈ entries, writes entry.kind

namespace Adds

variable {writes : EventKind → Prop}

theorem refl (session : Session) : Adds writes session session :=
  ⟨[], Observes.refl session, by simp⟩

theorem mono {writes' : EventKind → Prop} (h : Adds writes before after)
    (hwrites : ∀ kind, writes kind → writes' kind) : Adds writes' before after := by
  obtain ⟨entries, hobserves, hkinds⟩ := h
  exact ⟨entries, hobserves, fun entry hentry => hwrites _ (hkinds entry hentry)⟩

theorem trans (h₁ : Adds writes before middle) (h₂ : Adds writes middle after) :
    Adds writes before after := by
  obtain ⟨first, hfirst, hwrites₁⟩ := h₁
  obtain ⟨second, hsecond, hwrites₂⟩ := h₂
  refine ⟨first ++ second, hfirst.trans hsecond, fun entry hentry => ?_⟩
  rcases List.mem_append.mp hentry with hentry | hentry
  · exact hwrites₁ entry hentry
  · exact hwrites₂ entry hentry

end Adds

theorem Observes.adds_nothing {writes : EventKind → Prop} (h : Observes before after []) :
    Adds writes before after :=
  ⟨[], h, by simp⟩

theorem Observes.adds_one {writes : EventKind → Prop} {entry : LogEntry}
    (h : Observes before after [entry]) (hkind : writes entry.kind) : Adds writes before after := by
  refine ⟨[entry], h, fun entry' hentry => ?_⟩
  rw [List.mem_singleton.mp hentry]
  exact hkind

theorem observes_note (session : Session) (event : Event) :
    Observes session (session.note event) [.ofEvent session.clock.now event] :=
  ⟨rfl, rfl, rfl, rfl⟩

theorem observes_openCapture (session : Session) :
    Observes session session.openCapture [.ofEvent session.clock.now Recorder.mounted] :=
  ⟨rfl, rfl, rfl, rfl⟩

theorem observes_closeCapture (session : Session) : Observes session session.closeCapture [] := by
  unfold closeCapture
  split
  · exact ⟨rfl, rfl, rfl, by simp [log]⟩
  · exact Observes.refl session
  · exact Observes.refl session

theorem clock_closeCapture (session : Session) : session.closeCapture.clock = session.clock := by
  unfold closeCapture
  split <;> rfl

theorem observes_report (session : Session) (notice : Notice) :
    Observes session (session.report notice) [] :=
  ⟨rfl, rfl, rfl, by simp [report, log]⟩

theorem observes_abort (session : Session) : Observes session session.abort [] := by
  unfold abort
  split
  · exact Observes.refl session
  · have hclose := observes_closeCapture session
    exact ⟨hclose.traversal_eq, hclose.misses_eq, hclose.result_eq, hclose.log_eq⟩

theorem observes_leave (session : Session) : Observes session session.leave [] := by
  have habort := observes_abort session
  simp only [leave]
  split
  · exact Observes.refl session
  · split
    · exact habort
    · exact habort.trans (observes_report _ _)

theorem clock_abort (session : Session) : session.abort.clock = session.clock := by
  unfold abort
  split
  · rfl
  · exact session.clock_closeCapture

theorem clock_leave (session : Session) : session.leave.clock = session.clock := by
  simp only [leave]
  split
  · rfl
  · split <;> exact session.clock_abort

/-- A listener of the session adds one entry, and others none. -/
theorem adds_hear (session : Session) (detail : Fields) (listener : Listener) :
    Adds (fun kind => kind = .focus ∨ kind = .blur) session (hear detail session listener) := by
  cases listener with
  | host name => exact (Observes.refl session).adds_nothing
  | recorder id signal =>
    simp only [hear]
    split
    · refine (observes_note session (signal.event detail)).adds_one ?_
      exact signal.kind_event detail
    · exact (Observes.refl session).adds_nothing

theorem adds_emit (session : Session) (event : String) (detail : Fields) :
    Adds (fun kind => kind = .focus ∨ kind = .blur) session (session.emit event detail) := by
  unfold emit
  cases session.environment with
  | none => exact (Observes.refl session).adds_nothing
  | some environment =>
    -- by induction on the listeners, each of which finds the session as the one before left it
    simp only
    generalize environment.hearers event = listeners
    induction listeners generalizing session with
    | nil => exact (Observes.refl session).adds_nothing
    | cons listener rest ih => exact (adds_hear session detail listener).trans (ih _)

theorem adds_select (session : Session) (optionId : String) :
    Adds (· = .selectOption) session (session.select optionId).1 := by
  unfold select
  cases hselect : session.traversal.select optionId with
  | error error => exact (Observes.refl session).adds_nothing
  | ok event =>
    refine (observes_note session event).adds_one ?_
    rw [Traversal.select_eq_ok hselect]
    rfl

theorem adds_logUnchecked (session : Session) (kind payload : Json) :
    Adds (fun kind' => kind = .text kind'.word) session (session.logUnchecked kind payload).1 := by
  unfold logUnchecked
  cases hcheck : LogEntry.check kind payload (.integer session.clock.now) with
  | rejected first others =>
    have hobserves : Observes session { session with clock := session.clock.tick } [] :=
      ⟨rfl, rfl, rfl, (List.append_nil _).symm⟩
    exact hobserves.adds_nothing
  | accepted entry =>
    have hobserves : Observes session
        { session with
          recorder := session.recorder.append entry
          clock := session.clock.tick } [entry] := ⟨rfl, rfl, rfl, rfl⟩
    exact hobserves.adds_one (LogEntry.kind_of_check hcheck)

/-! ## Submissions, phase by phase -/

/-- A session with a submission noted and, if it is incorrect, counted. -/
def counted (session : Session) (submitted : Submitted) : Session :=
  (session.note submitted.event).countMiss (session.currentStage.isCorrect submitted.option)

/-- The action that is carried out for a submission. -/
def taken (session : Session) (submitted : Submitted) : Action :=
  (session.counted submitted).gate submitted

/-- A session with a submission counted and its action carried out and noted. -/
def moved (session : Session) (submitted : Submitted) : Session :=
  { session.counted submitted with
    traversal := (session.traversal.carryOut (.action (session.taken submitted))).1 }.note
      (session.traversal.transition (.action (session.taken submitted)))

/-- What a submission comes to if it leaves a session behind. -/
def stepTo (session : Session) (optionId : String) (submitted : Submitted) (after : Session)
    (completed : Option SubmissionResult) : StepResult where
  stageId := session.currentStage.id
  optionId := optionId
  isCorrect := session.currentStage.isCorrect submitted.option
  feedback := submitted.option.feedback
  action := session.taken submitted
  currentStageId := after.currentStage.id
  attempts := after.attempts session.currentStage.id
  completed := completed

@[simp] theorem traversal_counted :
    (session.counted submitted).traversal = session.traversal := by
  unfold counted countMiss
  split <;> rfl

@[simp] theorem result_counted : (session.counted submitted).result = session.result := by
  unfold counted countMiss
  split <;> rfl

@[simp] theorem clock_counted : (session.counted submitted).clock = session.clock.tick := by
  unfold counted countMiss
  split <;> rfl

theorem misses_counted : (session.counted submitted).misses
    = if session.currentStage.isCorrect submitted.option then session.misses
      else session.misses ++ [session.currentStage.id] := by
  unfold counted countMiss
  split <;> rfl

theorem log_counted : (session.counted submitted).log
    = session.log ++ [.ofEvent session.clock.now submitted.event] := by
  unfold counted countMiss
  split <;> rfl

/-- The gate lets the action of the option through, or holds the learner back. -/
theorem taken_eq (session : Session) (submitted : Submitted) :
    session.taken submitted = submitted.action ∨ session.taken submitted = .loop := by
  unfold taken gate
  split
  · exact Or.inr rfl
  · exact Or.inl rfl

/-- A submission is refused before anything is changed. -/
theorem submit_of_refused {optionId : String} {error : TraversalError}
    (h : session.traversal.submit optionId = .error error) :
    session.submit optionId = (session, .error error) := by
  simp only [submit, h]

/-- An accepted submission is counted, moves the traversal, and completes the question if the
traversal ends. -/
theorem submit_of_accepted {optionId : String}
    (h : session.traversal.submit optionId = .ok submitted) :
    session.submit optionId
      = match (session.traversal.carryOut (.action (session.taken submitted))).2 with
        | .error error => (session.moved submitted, .error error)
        | .ok none => (session.moved submitted,
            .ok (session.stepTo optionId submitted (session.moved submitted) none))
        | .ok (some completion) =>
          (((session.moved submitted).finalize completion).1,
            .ok (session.stepTo optionId submitted ((session.moved submitted).finalize completion).1
              (some ((session.moved submitted).finalize completion).2))) := by
  -- what is applied is applied to an active traversal, so it is carried out and noted
  have hactive : (session.counted submitted).traversal.completion = none := by
    rw [traversal_counted]
    exact (Traversal.submit_eq_ok.mp h).1
  have happly := Traversal.apply_of_active hactive (.action (session.taken submitted))
  rw [traversal_counted] at happly
  simp only [submit, h]
  have hcounted : (session.note submitted.event).countMiss
      (session.currentStage.isCorrect submitted.option) = session.counted submitted := rfl
  have htaken : (session.counted submitted).gate submitted = session.taken submitted := rfl
  simp only [hcounted, htaken, traversal_counted, happly]
  rfl

/-! ## What an accepted submission leaves -/

/-- The entry that closes a completed question. -/
def closing (now : Int) : Except TraversalError (Option Completion) → List LogEntry
  | .ok (some completion) => [.ofEvent now ⟨.submit, completion.toJson⟩]
  | .ok none => []
  | .error _ => []

/-- A clock after an accepted submission: it was read for every entry. -/
def clockAfter (clock : Clock) : Except TraversalError (Option Completion) → Clock
  | .ok (some _) => clock.tick.tick.tick
  | .ok none => clock.tick.tick
  | .error _ => clock.tick.tick

/-- A session after an accepted submission, which carried out the action taken with some answer. -/
structure Answers (before : Session) (submitted : Submitted)
    (answer : Except TraversalError (Option Completion)) (after : Session) : Prop where
  step : before.traversal.Step (.action (before.taken submitted)) after.traversal answer
  misses_eq : after.misses
    = if before.currentStage.isCorrect submitted.option then before.misses
      else before.misses ++ [before.currentStage.id]
  log_eq : after.log = before.log ++ .ofEvent (before.clock.reading 0) submitted.event
    :: .ofEvent (before.clock.reading 1)
      (before.traversal.transition (.action (before.taken submitted)))
    :: closing (before.clock.reading 2) answer
  clock_eq : after.clock = clockAfter before.clock answer
  result_of_ended : ∀ completion, answer = .ok (some completion) →
    ∃ result, after.result = some result ∧ result.completion = completion
      ∧ result.isCorrect = completion.isCorrect
  result_of_active : (∀ completion, answer ≠ .ok (some completion)) → after.result = before.result

/-- An incorrect submission counts for the stage it is made on, and nothing else counts. -/
theorem Answers.attempts_eq {answer : Except TraversalError (Option Completion)}
    (h : Answers before submitted answer after) (stageId : String) :
    after.attempts stageId = before.attempts stageId
      + if before.currentStage.id == stageId && !before.currentStage.isCorrect submitted.option
        then 1 else 0 := by
  rw [attempts, h.misses_eq, attempts]
  cases before.currentStage.isCorrect submitted.option with
  | true => simp
  | false =>
    -- the stage shown is the last one that is counted
    rw [if_neg Bool.false_ne_true, List.count_append, List.count_singleton]
    simp

theorem misses_moved : (session.moved submitted).misses
    = if session.currentStage.isCorrect submitted.option then session.misses
      else session.misses ++ [session.currentStage.id] := misses_counted

theorem result_moved : (session.moved submitted).result = session.result := result_counted

theorem clock_moved : (session.moved submitted).clock = session.clock.tick.tick :=
  congrArg Clock.tick clock_counted

theorem log_moved : (session.moved submitted).log
    = session.log ++ [.ofEvent (session.clock.reading 0) submitted.event,
      .ofEvent (session.clock.reading 1)
        (session.traversal.transition (.action (session.taken submitted)))] := by
  have hlog : (session.moved submitted).log = (session.counted submitted).log
      ++ [.ofEvent (session.counted submitted).clock.now
        (session.traversal.transition (.action (session.taken submitted)))] := rfl
  rw [hlog, log_counted, clock_counted, List.append_assoc]
  rfl

/-- Whether there is a record or not, the result holds the completion. -/
theorem conclude_completion (session : Session) (completion : Completion) :
    (session.conclude completion).2.completion = completion
      ∧ (session.conclude completion).2.isCorrect = completion.isCorrect := by
  unfold conclude
  split
  · exact ⟨rfl, rfl⟩
  · split <;> exact ⟨rfl, rfl⟩

/-- Computing the result changes nothing but the service log. -/
theorem exists_conclude_fst (session : Session) (completion : Completion) :
    ∃ notices, (session.conclude completion).1 = { session with notices := notices } := by
  unfold conclude
  split
  · exact ⟨_, rfl⟩
  · split
    · exact ⟨session.notices, rfl⟩
    · exact ⟨_, rfl⟩

/-- Completing the question leaves the traversal and the counts alone. -/
theorem finalize_keeps (session : Session) (completion : Completion) :
    (session.finalize completion).1.traversal = session.traversal
      ∧ (session.finalize completion).1.misses = session.misses
      ∧ (session.finalize completion).1.log
        = session.log ++ [.ofEvent session.clock.now ⟨.submit, completion.toJson⟩]
      ∧ (session.finalize completion).1.clock = session.clock.tick := by
  let noted := session.note ⟨.submit, completion.toJson⟩
  have hnote := observes_note session ⟨.submit, completion.toJson⟩
  have hclosed := hnote.trans (observes_closeCapture noted)
  have hfinal : ∃ notices, (session.finalize completion).1 = { noted.closeCapture with
      notices := notices
      result := some (noted.closeCapture.conclude completion).2 } := by
    obtain ⟨notices, hconclude⟩ := noted.closeCapture.exists_conclude_fst completion
    refine ⟨notices, ?_⟩
    simp only [finalize]
    rw [hconclude]
  obtain ⟨notices, hfinal⟩ := hfinal
  rw [hfinal]
  exact ⟨hclosed.traversal_eq, hclosed.misses_eq, hclosed.log_eq, noted.clock_closeCapture⟩

theorem answers_submit {optionId : String}
    (h : session.traversal.submit optionId = .ok submitted) :
    Answers session submitted
      (session.traversal.carryOut (.action (session.taken submitted))).2
      (session.submit optionId).1 := by
  have hstep := session.traversal.step_carryOut (.action (session.taken submitted))
  rw [submit_of_accepted h]
  -- unless the traversal ends, the session is left as it was moved
  cases hanswer : (session.traversal.carryOut (.action (session.taken submitted))).2 with
  | error error =>
    rw [hanswer] at hstep
    exact ⟨hstep, misses_moved, log_moved, clock_moved, nofun, fun _ => result_moved⟩
  | ok completion? =>
    rw [hanswer] at hstep
    cases completion? with
    | none => exact ⟨hstep, misses_moved, log_moved, clock_moved, nofun, fun _ => result_moved⟩
    | some completion =>
      obtain ⟨htraversal, hmisses, hlog, hclock⟩ :=
        (session.moved submitted).finalize_keeps completion
      rw [clock_moved, log_moved, List.append_assoc] at hlog
      rw [clock_moved] at hclock
      refine ⟨?_, hmisses.trans misses_moved, hlog, hclock, ?_,
        fun hne => absurd rfl (hne completion)⟩
      · dsimp only
        rw [htraversal]
        exact hstep
      · rintro _ ⟨⟩
        exact ⟨_, rfl, conclude_completion _ completion⟩

/-! ## Calls -/

theorem fst_perform_submit (session : Session) (optionId : String) :
    (session.perform (.submit optionId)).1 = (session.submit optionId).1 := by
  simp only [perform]
  split <;> next heq => rw [heq]

/-- A call either adds entries of its own kinds and nothing else, or is an accepted submission. -/
theorem perform_cases (session : Session) (call : SessionCall) :
    Adds call.Writes session (session.perform call).1
      ∨ ∃ optionId submitted answer, call = .submit optionId
        ∧ session.traversal.submit optionId = .ok submitted
        ∧ Answers session submitted answer (session.perform call).1 := by
  cases call with
  | select optionId =>
    have hselect : (session.perform (.select optionId)).1 = (session.select optionId).1 := by
      simp only [perform]
      split <;> next heq => rw [heq]
    rw [hselect]
    exact Or.inl (adds_select session optionId)
  | submit optionId =>
    rw [fst_perform_submit]
    cases haccepted : session.traversal.submit optionId with
    | error error =>
      rw [submit_of_refused haccepted]
      exact Or.inl (Observes.refl session).adds_nothing
    | ok submitted =>
      exact Or.inr ⟨optionId, submitted, _, rfl, haccepted, answers_submit haccepted⟩
  | emit event detail => exact Or.inl (adds_emit session event detail)
  | advance milliseconds =>
    have hobserves : Observes session (session.advance milliseconds) [] :=
      ⟨rfl, rfl, rfl, by simp [advance, log]⟩
    exact Or.inl hobserves.adds_nothing
  | log kind payload =>
    have hlog : (session.perform (.log kind payload)).1
        = (session.logUnchecked kind payload).1 := by
      simp only [perform]
      split <;> next heq => rw [heq]
    rw [hlog]
    exact Or.inl (adds_logUnchecked session kind payload)
  | recapture =>
    refine Or.inl ?_
    simp only [perform, recapture]
    split
    · next hsome =>
      split at hsome
      · cases hsome
      · cases hsome
        -- the host is listened to and no longer listened to
        have hopened := observes_openCapture session
        exact (hopened.trans (observes_closeCapture session.openCapture)).adds_one rfl
    · exact (Observes.refl session).adds_nothing
  | leave => exact Or.inl (observes_leave session).adds_nothing
  | abort => exact Or.inl (observes_abort session).adds_nothing

theorem run_cons (session : Session) (call : SessionCall) (calls : List SessionCall) :
    session.run (call :: calls)
      = (((session.perform call).1.run calls).1,
          (session.perform call).2 :: ((session.perform call).1.run calls).2) := rfl

/-- What every call of a run keeps is kept by the run. -/
theorem run_invariant {P : Session → Prop} {calls : List SessionCall}
    (hstep : ∀ call ∈ calls, ∀ session, P session → P (session.perform call).1)
    (hstart : P session) : P (session.run calls).1 := by
  induction calls generalizing session with
  | nil => exact hstart
  | cons call rest ih =>
    rw [run_cons]
    have hnext : P (session.perform call).1 := hstep call (List.mem_cons_self ..) session hstart
    exact ih (fun call' hcall => hstep call' (List.mem_cons_of_mem _ hcall)) hnext

end Session

end AdaptiveQuiz
