import AdaptiveQuiz.Proofs.Session.Host

/-!
# What a session takes from its clock

A call reads the clock a number of times, which depends on the session and the call, but not on what
the clock shows. Apart from these readings, the clock makes no difference to the call.

## Main definitions

* `Clock.drop`: a clock after a number of readings
* `Clock.AgreesFor`: two clocks that show the same for a number of readings
* `Session.timed`: a session on another clock
* `Session.Reads`, `Session.Answered`: what reads the clock a number of times and no more

## Main statements

* `Session.exists_reads_perform`: a call reads the clock a number of times
* `Session.exists_timed_perform`: a call can be made so that any clock is left
* `Session.clock_perform_of_isStill`: a clock that stands still is moved by nothing but time
-/

namespace AdaptiveQuiz

/-! ## Readings -/

namespace Clock

variable {clock other : Clock} {m n : Nat}

/-- The clock after a number of readings. -/
def drop (clock : Clock) (n : Nat) : Clock := ⟨fun k => clock.reading (k + n)⟩

theorem drop_drop (clock : Clock) (m n : Nat) : (clock.drop m).drop n = clock.drop (m + n) := by
  ext k
  show clock.reading (k + n + m) = clock.reading (k + (m + n))
  rw [Nat.add_assoc, Nat.add_comm n m]

/-- Both clocks show the same for a number of readings. -/
def AgreesFor (n : Nat) (clock other : Clock) : Prop :=
  ∀ k < n, clock.reading k = other.reading k

theorem AgreesFor.of_add (h : AgreesFor (m + n) clock other) : AgreesFor m clock other :=
  fun k hk => h k (Nat.lt_add_right n hk)

theorem AgreesFor.drop (h : AgreesFor (m + n) clock other) :
    AgreesFor n (clock.drop m) (other.drop m) :=
  fun k hk => h (k + m) (by omega)

theorem AgreesFor.now_eq (h : AgreesFor 1 clock other) : clock.now = other.now := h 0 Nat.one_pos

/-- The first readings of one clock, and then those of another. -/
def splice (n : Nat) (clock last : Clock) : Clock :=
  ⟨fun k => if k < n then clock.reading k else last.reading (k - n)⟩

theorem agreesFor_splice (n : Nat) (clock last : Clock) : AgreesFor n (splice n clock last) clock :=
  fun _ hk => if_pos hk

theorem drop_splice (n : Nat) (clock last : Clock) : (splice n clock last).drop n = last := by
  ext k
  show (if k + n < n then clock.reading (k + n) else last.reading (k + n - n)) = last.reading k
  rw [if_neg (by omega), Nat.add_sub_cancel]

/-- What is spliced with its own rest is itself. -/
theorem splice_drop (n : Nat) (clock : Clock) : splice n clock (clock.drop n) = clock := by
  ext k
  show (if k < n then clock.reading k else clock.reading (k - n + n)) = clock.reading k
  split
  · rfl
  · rw [Nat.sub_add_cancel (by omega)]

theorem advance_advance_neg (clock : Clock) (milliseconds : Int) :
    (clock.advance milliseconds).advance (-milliseconds) = clock := by
  ext k
  exact Int.add_neg_cancel_right _ _

theorem advance_neg_advance (clock : Clock) (milliseconds : Int) :
    (clock.advance (-milliseconds)).advance milliseconds = clock := by
  ext k
  exact Int.neg_add_cancel_right _ _

theorem IsStill.drop_eq (h : clock.IsStill) (n : Nat) : clock.drop n = clock := by
  induction n with
  | zero => rfl
  | succ n ih =>
    rw [← drop_drop, ih]
    exact h

end Clock

namespace Session

variable {session : Session} {submitted : Submitted}

/-- The session on another clock. -/
def timed (session : Session) (clock : Clock) : Session := { session with clock := clock }

/-! ## What does not read the clock -/

theorem closeCapture_timed (session : Session) (clock : Clock) :
    (session.timed clock).closeCapture = session.closeCapture.timed clock := by
  cases hcapture : session.recorder.capture <;> simp only [closeCapture, timed, hcapture]

theorem countMiss_timed (session : Session) (isCorrect : Bool) (clock : Clock) :
    (session.timed clock).countMiss isCorrect = (session.countMiss isCorrect).timed clock := by
  cases isCorrect <;> rfl

theorem abort_timed (session : Session) (clock : Clock) :
    (session.timed clock).abort = session.abort.timed clock := by
  unfold abort
  rw [closeCapture_timed, apply_ite (timed · clock)]
  rfl

theorem leave_timed (session : Session) (clock : Clock) :
    (session.timed clock).leave = session.leave.timed clock := by
  simp only [leave, abort_timed]
  rw [apply_ite (timed · clock), apply_ite (timed · clock)]
  rfl

theorem conclude_timed (session : Session) (completion : Completion) (clock : Clock) :
    (session.timed clock).conclude completion
      = ((session.conclude completion).1.timed clock, (session.conclude completion).2) := by
  have hanalyze : (session.timed clock).analyze = session.analyze := rfl
  simp only [conclude, hanalyze]
  cases hpreview : session.isPreview with
  | true => simp [timed, hpreview, report]
  | false => cases session.analyze <;> simp [timed, hpreview, report]

/-! ## What reads it -/

/-- A change of the session that reads the clock a number of times and no more. -/
def Reads (change : Session → Session) (session : Session) (n : Nat) : Prop :=
  ∀ clock, Clock.AgreesFor n clock session.clock →
    change (session.timed clock) = (change session).timed (clock.drop n)

namespace Reads

variable {change next : Session → Session} {m n : Nat}

theorem clock_eq (h : Reads change session n) :
    (change session).clock = session.clock.drop n :=
  congrArg Session.clock (h session.clock fun _ _ => rfl)

/-- Readings add up. -/
theorem comp (h : Reads change session m) (hnext : Reads next (change session) n) :
    Reads (fun session => next (change session)) session (m + n) := by
  intro clock hagrees
  show next (change (session.timed clock)) = (next (change session)).timed (clock.drop (m + n))
  rw [h clock hagrees.of_add, hnext, Clock.drop_drop]
  rw [h.clock_eq]
  exact hagrees.drop

end Reads

theorem reads_id (session : Session) : Reads id session 0 := fun _ _ => rfl

theorem reads_note (session : Session) (event : Event) : Reads (·.note event) session 1 := by
  intro clock hagrees
  show (session.timed clock).note event = (session.note event).timed clock.tick
  simp only [note, timed, hagrees.now_eq]

theorem reads_openCapture (session : Session) : Reads openCapture session 1 := by
  intro clock hagrees
  show (session.timed clock).openCapture = session.openCapture.timed clock.tick
  simp only [openCapture, note, timed, hagrees.now_eq]

theorem exists_reads_hear (session : Session) (detail : Fields) (listener : Listener) :
    ∃ n, Reads (hear detail · listener) session n := by
  cases listener with
  | host name => exact ⟨0, session.reads_id⟩
  | recorder id signal =>
    by_cases hid : id = recorderId
    · refine ⟨1, ?_⟩
      simp only [hear, if_pos hid]
      exact session.reads_note (signal.event detail)
    · refine ⟨0, ?_⟩
      simp only [hear, if_neg hid]
      exact session.reads_id

/-- Each listener that hears an event reads the clock for it, or does nothing. -/
theorem exists_reads_emit (session : Session) (event : String) (detail : Fields) :
    ∃ n, Reads (·.emit event detail) session n := by
  have hlisteners (listeners : List Listener) :
      ∃ n, Reads (fun session => listeners.foldl (hear detail) session) session n := by
    induction listeners generalizing session with
    | nil => exact ⟨0, session.reads_id⟩
    | cons listener rest ih =>
      obtain ⟨m, hhear⟩ := session.exists_reads_hear detail listener
      obtain ⟨n, hrest⟩ := ih (hear detail session listener)
      exact ⟨m + n, hhear.comp hrest⟩
  cases henvironment : session.environment with
  | none =>
    refine ⟨0, fun clock _ => ?_⟩
    simp only [emit, timed, henvironment]
    rfl
  | some environment =>
    obtain ⟨n, hreads⟩ := hlisteners (environment.hearers event)
    refine ⟨n, fun clock hagrees => ?_⟩
    have hheard := hreads clock hagrees
    simp only [emit, timed, henvironment] at hheard ⊢
    exact hheard

theorem reads_counted (session : Session) (submitted : Submitted) :
    Reads (·.counted submitted) session 1 := by
  intro clock hagrees
  have hnote := session.reads_note submitted.event clock hagrees
  simp only [counted] at hnote ⊢
  rw [hnote, countMiss_timed]
  rfl

/-- What the clock shows does not decide about the action. -/
theorem taken_timed (session : Session) (submitted : Submitted) (clock : Clock) :
    (session.timed clock).taken submitted = session.taken submitted := by
  have hstage : (session.timed clock).currentStage = session.currentStage := rfl
  unfold taken counted
  rw [hstage]
  cases session.currentStage.isCorrect submitted.option <;> rfl

theorem reads_moved (session : Session) (submitted : Submitted) :
    Reads (·.moved submitted) session 2 := by
  intro clock hagrees
  let proposal : Proposal := .action (session.taken submitted)
  -- what is carried out and noted is the same on both clocks
  have hnote : Reads
      (fun now => { now with traversal := (session.traversal.carryOut proposal).1 }.note
        (session.traversal.transition proposal)) (session.counted submitted) 1 :=
    fun later hlater => reads_note { session.counted submitted with
      traversal := (session.traversal.carryOut proposal).1 } _ later hlater
  have hmoved := (session.reads_counted submitted).comp hnote clock hagrees
  simp only [moved, taken_timed]
  exact hmoved

/-! ## Calls -/

/-- Something that is done on a session, reads the clock a number of times and no more, and is
answered in the same way whatever the clock shows. -/
def Answered {α : Type} (act : Session → Session × α) (session : Session) (n : Nat) : Prop :=
  ∀ clock, Clock.AgreesFor n clock session.clock →
    act (session.timed clock) = ((act session).1.timed (clock.drop n), (act session).2)

theorem answered_finalize (session : Session) (completion : Completion) :
    Answered (·.finalize completion) session 1 := by
  intro clock hagrees
  have hnote := session.reads_note ⟨.submit, completion.toJson⟩ clock hagrees
  simp only [finalize] at hnote ⊢
  rw [hnote, closeCapture_timed, conclude_timed]
  rfl

theorem answered_select (session : Session) (optionId : String) :
    ∃ n, Answered (·.select optionId) session n := by
  cases hselect : session.traversal.select optionId with
  | error error =>
    refine ⟨0, fun clock _ => ?_⟩
    simp only [select, timed, hselect]
    rfl
  | ok event =>
    refine ⟨1, fun clock hagrees => ?_⟩
    have hnote := session.reads_note event clock hagrees
    simp only [select, timed, hselect] at hnote ⊢
    rw [hnote]

theorem stepTo_timed (session after : Session) (optionId : String) (submitted : Submitted)
    (completed : Option SubmissionResult) (clock later : Clock) :
    (session.timed clock).stepTo optionId submitted (after.timed later) completed
      = session.stepTo optionId submitted after completed := by
  simp only [stepTo, taken_timed]
  rfl

/-- An accepted submission reads the clock twice, and once more if it completes the question. -/
theorem answered_submit (session : Session) (optionId : String) :
    ∃ n, Answered (·.submit optionId) session n := by
  cases hsubmit : session.traversal.submit optionId with
  | error error =>
    refine ⟨0, fun clock _ => ?_⟩
    have hsubmit' : (session.timed clock).traversal.submit optionId = .error error := hsubmit
    simp only [submit_of_refused hsubmit, submit_of_refused hsubmit']
    rfl
  | ok submitted =>
    have hsubmit' (clock : Clock) :
        (session.timed clock).traversal.submit optionId = .ok submitted := hsubmit
    have htraversal (clock : Clock) : (session.timed clock).traversal = session.traversal := rfl
    have hreads := session.reads_moved submitted
    have hmoved (clock : Clock) (hagrees : Clock.AgreesFor 2 clock session.clock) :
        (session.timed clock).moved submitted = (session.moved submitted).timed (clock.drop 2) :=
      hreads clock hagrees
    cases hanswer : (session.traversal.carryOut (.action (session.taken submitted))).2 with
    | error error =>
      refine ⟨2, fun clock hagrees => ?_⟩
      simp only [submit_of_accepted hsubmit, submit_of_accepted (hsubmit' clock), taken_timed,
        htraversal, hanswer, hmoved clock hagrees]
    | ok completion? =>
      cases completion? with
      | none =>
        refine ⟨2, fun clock hagrees => ?_⟩
        simp only [submit_of_accepted hsubmit, submit_of_accepted (hsubmit' clock), taken_timed,
          htraversal, hanswer, hmoved clock hagrees, stepTo_timed]
      | some completion =>
        refine ⟨2 + 1, fun clock hagrees => ?_⟩
        -- the third reading is the first one after the move
        have hrest : Clock.AgreesFor 1 (clock.drop 2) (session.moved submitted).clock := by
          rw [hreads.clock_eq]
          exact hagrees.drop
        have hfinal := (session.moved submitted).answered_finalize completion (clock.drop 2) hrest
        simp only [Clock.drop_drop] at hfinal
        simp only [submit_of_accepted hsubmit, submit_of_accepted (hsubmit' clock), taken_timed,
          htraversal, hanswer, hmoved clock hagrees.of_add, hfinal, stepTo_timed]

theorem answered_logUnchecked (session : Session) (kind payload : Json) :
    Answered (·.logUnchecked kind payload) session 1 := by
  intro clock hagrees
  have hnow : (session.timed clock).clock.now = session.clock.now := hagrees.now_eq
  simp only [logUnchecked]
  rw [hnow]
  cases LogEntry.check kind payload (.integer session.clock.now) <;> rfl

/-- A call reads the clock a number of times. On every clock that shows the same for so many
readings, it is answered in the same way and leaves the same session, apart from what the clock
shows then. -/
theorem exists_reads_perform (session : Session) (call : SessionCall) :
    ∃ n, ∀ clock, Clock.AgreesFor n clock session.clock → (session.timed clock).perform call
      = ((session.perform call).1.timed ((clock.drop n).advance call.elapsed),
        (session.perform call).2) := by
  cases call with
  | select optionId =>
    obtain ⟨n, hselect⟩ := session.answered_select optionId
    refine ⟨n, fun clock hagrees => ?_⟩
    have hselected := hselect clock hagrees
    simp only [perform, SessionCall.elapsed, Clock.advance_zero] at hselected ⊢
    rw [hselected]
    rcases session.select optionId with ⟨after, _ | _⟩ <;> rfl
  | submit optionId =>
    obtain ⟨n, hsubmit⟩ := session.answered_submit optionId
    refine ⟨n, fun clock hagrees => ?_⟩
    have hsubmitted := hsubmit clock hagrees
    simp only [perform, SessionCall.elapsed, Clock.advance_zero] at hsubmitted ⊢
    rw [hsubmitted]
    rcases session.submit optionId with ⟨after, _ | _⟩ <;> rfl
  | emit event detail =>
    obtain ⟨n, hemit⟩ := session.exists_reads_emit event detail
    refine ⟨n, fun clock hagrees => ?_⟩
    have hemitted := hemit clock hagrees
    simp only [perform, SessionCall.elapsed, Clock.advance_zero] at hemitted ⊢
    rw [hemitted]
  | advance milliseconds => exact ⟨0, fun clock _ => rfl⟩
  | log kind payload =>
    refine ⟨1, fun clock hagrees => ?_⟩
    have hlogged := session.answered_logUnchecked kind payload clock hagrees
    simp only [perform, SessionCall.elapsed, Clock.advance_zero] at hlogged ⊢
    rw [hlogged]
    rcases session.logUnchecked kind payload with ⟨after, _ | _⟩ <;> rfl
  | recapture =>
    by_cases hcapturing : session.recorder.isCapturing
    · refine ⟨0, fun clock _ => ?_⟩
      have hcapturing' : (session.timed clock).recorder.isCapturing := hcapturing
      simp only [perform, SessionCall.elapsed, Clock.advance_zero, recapture, if_pos hcapturing,
        if_pos hcapturing']
      rfl
    · refine ⟨1, fun clock hagrees => ?_⟩
      have hopened := session.reads_openCapture clock hagrees
      have hcapturing' : ¬ (session.timed clock).recorder.isCapturing := hcapturing
      simp only [perform, SessionCall.elapsed, Clock.advance_zero, recapture, if_neg hcapturing,
        if_neg hcapturing']
      rw [hopened, closeCapture_timed]
  | leave =>
    refine ⟨0, fun clock _ => ?_⟩
    simp only [perform, SessionCall.elapsed, Clock.advance_zero, leave_timed]
    rfl
  | abort =>
    refine ⟨0, fun clock _ => ?_⟩
    simp only [perform, SessionCall.elapsed, Clock.advance_zero, abort_timed]
    rfl

/-- A call that is made on a suitable clock leaves any clock that is asked for, and nothing else is
different. To have the clock left that is left anyway, none other than that of the session is
suitable. -/
theorem exists_timed_perform (session : Session) (call : SessionCall) (last : Clock) :
    ∃ clock, (session.timed clock).perform call
        = ((session.perform call).1.timed last, (session.perform call).2)
      ∧ (last = (session.perform call).1.clock → clock = session.clock) := by
  obtain ⟨n, hreads⟩ := session.exists_reads_perform call
  -- the readings are those of the session, and what was to pass is taken back from the rest
  let rest := last.advance (-call.elapsed)
  refine ⟨.splice n session.clock rest, ?_, ?_⟩
  · rw [hreads _ (Clock.agreesFor_splice n session.clock rest), Clock.drop_splice,
      Clock.advance_neg_advance]
  · rintro rfl
    have hclock : (session.perform call).1.clock = (session.clock.drop n).advance call.elapsed :=
      congrArg (fun made => made.1.clock) (hreads session.clock fun _ _ => rfl)
    simp only [rest]
    rw [hclock, Clock.advance_advance_neg, Clock.splice_drop]

/-- On a clock that stands still, only the passing of time makes a difference. -/
theorem clock_perform_of_isStill (h : session.clock.IsStill) (call : SessionCall) :
    (session.perform call).1.clock = session.clock.advance call.elapsed := by
  obtain ⟨n, hreads⟩ := session.exists_reads_perform call
  have hclock : (session.perform call).1.clock = (session.clock.drop n).advance call.elapsed :=
    congrArg (fun made => made.1.clock) (hreads session.clock fun _ _ => rfl)
  rw [hclock, h.drop_eq]

end Session

end AdaptiveQuiz
