import AdaptiveQuiz.Proofs.Journal.Environment
import AdaptiveQuiz.Proofs.Session.Completion

/-!
# How a session stands to its host

A session listens to its host from its start until the question is completed or the session is left,
whichever comes first. As long as it listens, it has one listener for every signal; afterwards the
listeners are those that were there before, and nothing that the host tells reaches the journal.

## Main definitions

* `SessionCall.IsPlain`: what the learner, the host and the clock do
* `Session.isOver`: whether the session is completed or left
* `Session.Stance`, `Session.stance`: how a session stands to its host
* `Session.Attends`: a session on course that listens to its host unless it is over

## Main statements

* `Session.attends_begin`, `Session.attends_run`: a session attends from its start on
* `Session.Attends.log_perform`: nothing is entered into the journal of a completed session
-/

namespace AdaptiveQuiz

/-- What the learner, the host and the clock do. Writing into the journal by hand and trying to capture
once more are left out. -/
def SessionCall.IsPlain : SessionCall → Prop
  | .select _ => True
  | .submit _ => True
  | .emit _ _ => True
  | .advance _ => True
  | .leave => True
  | .abort => True
  | .log _ _ => False
  | .recapture => False

/-- The time that a call lets pass. -/
def SessionCall.elapsed : SessionCall → Int
  | .advance milliseconds => milliseconds
  | _ => 0

/-- Whether a call leaves the session. -/
def SessionCall.leaves (call : SessionCall) : Bool := call == .leave || call == .abort

namespace Session

variable {session before after : Session} {given : Option Environment} {optionId : String}
  {submitted : Submitted} {completion? : Option Completion} {step : StepResult}

/-- Whether the question is completed or the session is left. -/
def isOver (session : Session) : Bool := session.isComplete || session.isLeft

/-- How a session stands to its host. -/
structure Stance where
  capture : Capture
  environment : Option Environment
  isLeft : Bool

/-- How a session stands to its host now. -/
def stance (session : Session) : Stance :=
  ⟨session.recorder.capture, session.environment, session.isLeft⟩

/-- A stance without an open capture. -/
def Stance.close (stance : Stance) : Stance :=
  match stance.capture with
  | .opened _ =>
    { stance with
      capture := .closed, environment := stance.environment.map (·.detach recorderId) }
  | .closed => stance
  | .stuck => stance

/-! ## What operations change of the stance -/

@[simp] theorem Stance.isLeft_close (stance : Stance) : stance.close.isLeft = stance.isLeft := by
  unfold close
  split <;> rfl

@[simp] theorem stance_note (session : Session) (event : Event) :
    (session.note event).stance = session.stance := rfl

@[simp] theorem stance_report (session : Session) (notice : Notice) :
    (session.report notice).stance = session.stance := rfl

@[simp] theorem stance_countMiss (session : Session) (isCorrect : Bool) :
    (session.countMiss isCorrect).stance = session.stance := by
  unfold countMiss
  split <;> rfl

@[simp] theorem stance_closeCapture (session : Session) :
    session.closeCapture.stance = session.stance.close := by
  unfold closeCapture
  split <;> next hcapture => simp [Stance.close, stance, hcapture]

@[simp] theorem stance_hear (session : Session) (detail : Fields) (listener : Listener) :
    (hear detail session listener).stance = session.stance := by
  unfold hear
  split
  · split <;> rfl
  · rfl

@[simp] theorem stance_emit (session : Session) (event : String) (detail : Fields) :
    (session.emit event detail).stance = session.stance := by
  unfold emit
  cases session.environment with
  | none => rfl
  | some environment =>
    simp only
    generalize environment.hearers event = listeners
    induction listeners generalizing session with
    | nil => rfl
    | cons listener rest ih => rw [List.foldl_cons, ih, stance_hear]

@[simp] theorem stance_moved (session : Session) (submitted : Submitted) :
    (session.moved submitted).stance = session.stance := by
  have hcounted : (session.counted submitted).stance = session.stance := by simp [counted]
  rw [← hcounted]
  rfl

@[simp] theorem stance_conclude (session : Session) (completion : Completion) :
    (session.conclude completion).1.stance = session.stance := by
  obtain ⟨notices, hconclude⟩ := session.exists_conclude_fst completion
  rw [hconclude]
  rfl

/-- Completing the question closes the capture. -/
@[simp] theorem stance_finalize (session : Session) (completion : Completion) :
    (session.finalize completion).1.stance = session.stance.close := by
  show ((session.note _).closeCapture.conclude completion).1.stance = session.stance.close
  simp

theorem stance_abort (session : Session) : session.abort.stance
    = if session.isLeft then session.stance else { session.stance.close with isLeft := true } := by
  unfold abort
  split
  · rfl
  · rw [← stance_closeCapture]
    rfl

theorem stance_leave (session : Session) : session.leave.stance = session.abort.stance := by
  have habort : session.isLeft = true → session.abort = session := fun hleft => if_pos hleft
  simp only [leave]
  split
  · next hleft => rw [habort hleft]
  · split
    · rfl
    · rw [stance_report]

theorem stance_select (session : Session) (optionId : String) :
    (session.perform (.select optionId)).1.stance = session.stance := by
  simp only [perform, select]
  cases session.traversal.select optionId <;> rfl

/-- A submission closes the capture if it completes the question, and leaves it otherwise. -/
theorem Stepped.stance_eq
    (h : Stepped before optionId submitted completion? (before.perform (.submit optionId)).1 step) :
    (before.perform (.submit optionId)).1.stance
      = if completion?.isSome then before.stance.close else before.stance := by
  have hcarry := congrArg Prod.snd h.carryOut_eq
  rw [h.action_eq] at hcarry
  simp only [perform, submit_of_accepted h.submit_eq, hcarry]
  cases completion? <;> simp

/-! ## Attending to the host -/

/-- A stance with an open capture, or after it was closed. -/
structure Stance.Fits (stance : Stance) (given : Option Environment) (isOver : Bool) : Prop where
  capture_eq : stance.capture = if isOver then .closed else .opened given.isSome
  environment_eq : stance.environment
    = if isOver then given else given.map (·.attach recorderId)

/-- Closing the capture restores the listeners that were there before, whether it was open or not. -/
theorem Stance.Fits.close {stance : Stance} {isOver : Bool} (h : stance.Fits given isOver)
    (hfree : ∀ environment ∈ given, environment.Spares recorderId) :
    stance.close.Fits given true := by
  cases isOver with
  | true =>
    have hcapture : stance.capture = .closed := h.capture_eq
    rwa [Stance.close, hcapture]
  | false =>
    have hcapture : stance.capture = .opened given.isSome := h.capture_eq
    have henvironment : stance.environment = given.map (·.attach recorderId) := h.environment_eq
    rw [Stance.close, hcapture]
    refine ⟨rfl, ?_⟩
    cases given with
    | none => rw [henvironment]; rfl
    | some environment =>
      rw [henvironment, if_pos rfl, Option.map_some, Option.map_some,
        Environment.detach_attach (hfree environment rfl)]

/-- A session on course that is completed exactly if its traversal has ended, and that listens to its
host unless it is over. -/
structure Attends (given : Option Environment) (session : Session) : Prop where
  onCourse : session.traversal.OnCourse
  complete_eq : session.isComplete = session.traversal.isTerminal
  fits : session.stance.Fits given session.isOver

theorem attends_begin {settings : Settings} {shared : Registry} {registry : Option Registry}
    {options : SessionOptions} {question : Json}
    (h : start? settings shared registry options question = .ok session) :
    Attends options.environment session := by
  obtain ⟨flow, hsound, hbegins⟩ := exists_sound_of_start? h
  obtain ⟨manifest, document, flow', traversal, -, -, -, -, rfl⟩ := start?_eq_ok.mp h
  refine ⟨Traversal.onCourse_of_start? hsound hbegins.traversal_eq, ?_, rfl, rfl⟩
  rw [isComplete, hbegins.result_eq, Traversal.isTerminal, hbegins.completion_eq]
  rfl

theorem Adds.isComplete_eq {writes : EventKind → Prop} (h : Adds writes before after) :
    after.isComplete = before.isComplete := by
  obtain ⟨entries, hobserves, -⟩ := h
  rw [isComplete, hobserves.result_eq, isComplete]

theorem Adds.log_eq_of_nothing {writes : EventKind → Prop} (h : Adds writes before after)
    (hnone : ∀ kind, ¬ writes kind) : after.log = before.log := by
  obtain ⟨entries, hobserves, hwrites⟩ := h
  have hnil : entries = [] :=
    List.eq_nil_iff_forall_not_mem.mpr fun entry hentry => hnone _ (hwrites entry hentry)
  rw [hobserves.log_eq, hnil, List.append_nil]

/-- What leaves the question alone keeps a session attending if it closes the capture whenever the
session is over by it. -/
theorem Attends.observe {writes : EventKind → Prop} (h : Attends given before)
    (hadds : Adds writes before after) (hfits : after.stance.Fits given after.isOver) :
    Attends given after := by
  obtain ⟨entries, hobserves, -⟩ := hadds
  refine ⟨?_, ?_, hfits⟩
  · rw [hobserves.traversal_eq]
    exact h.onCourse
  · rw [isComplete, hobserves.result_eq, hobserves.traversal_eq]
    exact h.complete_eq

/-- What leaves the question and the host alone keeps a session attending. -/
theorem Attends.steady {writes : EventKind → Prop} (h : Attends given before)
    (hadds : Adds writes before after) (hstance : after.stance = before.stance) :
    Attends given after := by
  refine h.observe hadds ?_
  have hleft : after.isLeft = before.isLeft := congrArg Stance.isLeft hstance
  have hover : after.isOver = before.isOver := by rw [isOver, isOver, hadds.isComplete_eq, hleft]
  rw [hover, hstance]
  exact h.fits

/-- Whoever leaves a session ends its listening, unless it was over already. -/
theorem Attends.abort (h : Attends given before)
    (hfree : ∀ environment ∈ given, environment.Spares recorderId)
    {writes : EventKind → Prop} (hadds : Adds writes before after)
    (hstance : after.stance = before.abort.stance) : Attends given after := by
  rw [stance_abort] at hstance
  split at hstance
  · exact h.steady hadds hstance
  · refine h.observe hadds ?_
    have hleft : after.isLeft = true := congrArg Stance.isLeft hstance
    have hclosed := h.fits.close hfree
    rw [isOver, hleft, Bool.or_true, hstance]
    exact ⟨hclosed.capture_eq, hclosed.environment_eq⟩

/-- A submission ends the listening if it completes the question. -/
theorem Attends.submit (h : Attends given before)
    (hfree : ∀ environment ∈ given, environment.Spares recorderId)
    (hstepped : Stepped before optionId submitted completion?
      (before.perform (.submit optionId)).1 step) :
    Attends given (before.perform (.submit optionId)).1 := by
  have hstance := hstepped.stance_eq
  have hresult := hstepped.result_eq
  rw [hstepped.completed_eq] at hresult
  have hleft : (before.perform (.submit optionId)).1.isLeft = before.isLeft := by
    have hleft := congrArg Stance.isLeft hstance
    rwa [apply_ite Stance.isLeft, Stance.isLeft_close, ite_self] at hleft
  -- a completed question has a result and an ended traversal, and its capture is closed
  refine ⟨h.onCourse.step hstepped.answers.step, ?_, ?_⟩
  · cases completion? with
    | none =>
      rw [Traversal.isTerminal, hstepped.answers.step.completion_eq_of_none, isComplete, hresult]
      exact h.complete_eq
    | some completion =>
      rw [Traversal.isTerminal, hstepped.answers.step.completion_eq, isComplete, hresult]
      rfl
  · cases completion? with
    | none =>
      rw [hstance, isOver, isComplete, hresult, hleft]
      exact h.fits
    | some completion =>
      rw [hstance, isOver, isComplete, hresult]
      exact h.fits.close hfree

/-- A call that is no submission adds entries and nothing else. -/
theorem adds_perform (session : Session) (call : SessionCall)
    (hcall : ∀ optionId, call ≠ .submit optionId) :
    Adds call.Writes session (session.perform call).1 := by
  refine (session.perform_cases call).resolve_right ?_
  rintro ⟨optionId, _, _, hsubmit, -⟩
  exact hcall optionId hsubmit

/-- Whatever the learner, the host and the clock do, a session keeps attending. -/
theorem Attends.perform (h : Attends given before)
    (hfree : ∀ environment ∈ given, environment.Spares recorderId) {call : SessionCall}
    (hplain : call.IsPlain) : Attends given (before.perform call).1 := by
  cases call with
  | select optionId =>
    exact h.steady (before.adds_perform (.select optionId) (by simp))
      (before.stance_select optionId)
  | submit optionId =>
    cases hsubmit : before.traversal.submit optionId with
    | error error =>
      rw [perform_submit_of_refused hsubmit]
      exact h
    | ok submitted =>
      obtain ⟨completion?, step, -, hstepped⟩ := perform_submit_stepped h.onCourse hsubmit
      exact h.submit hfree hstepped
  | emit event detail =>
    exact h.steady (before.adds_perform (.emit event detail) (by simp))
      (before.stance_emit event detail)
  | advance milliseconds =>
    exact h.steady (before.adds_perform (.advance milliseconds) (by simp)) rfl
  | log kind payload => exact hplain.elim
  | recapture => exact hplain.elim
  | leave => exact h.abort hfree (before.adds_perform .leave (by simp)) before.stance_leave
  | abort => exact h.abort hfree (before.adds_perform .abort (by simp)) rfl

theorem attends_run {calls : List SessionCall} (h : Attends given session)
    (hfree : ∀ environment ∈ given, environment.Spares recorderId)
    (hplain : ∀ call ∈ calls, call.IsPlain) : Attends given (session.run calls).1 :=
  run_invariant (P := Attends given) (fun call hcall _ hnow => hnow.perform hfree (hplain call hcall)) h

/-! ## Leaving -/

theorem isLeft_abort (session : Session) : session.abort.stance.isLeft = true := by
  rw [stance_abort]
  split
  · next hleft => exact hleft
  · rfl

/-- Only the two calls for it leave the session. -/
theorem Attends.isLeft_perform (h : Attends given session) {call : SessionCall}
    (hplain : call.IsPlain) :
    (session.perform call).1.isLeft = (session.isLeft || call.leaves) := by
  -- it is read off the stance, which a call leaves alone, closes or leaves for good
  have hkept (stance : Stance) (hleft : stance.isLeft = session.isLeft) :
      stance.isLeft = (session.isLeft || false) := by rw [hleft, Bool.or_false]
  have hleft : session.abort.stance.isLeft = (session.isLeft || true) :=
    session.isLeft_abort.trans (Bool.or_true _).symm
  cases call with
  | select optionId => exact hkept _ (congrArg Stance.isLeft (session.stance_select optionId))
  | submit optionId =>
    cases hsubmit : session.traversal.submit optionId with
    | error error =>
      rw [perform_submit_of_refused hsubmit]
      exact hkept session.stance rfl
    | ok submitted =>
      obtain ⟨completion?, step, -, hstepped⟩ := perform_submit_stepped h.onCourse hsubmit
      refine hkept (session.perform (.submit optionId)).1.stance ?_
      rw [hstepped.stance_eq]
      split <;> simp [stance]
  | emit event detail => exact hkept _ (congrArg Stance.isLeft (session.stance_emit event detail))
  | advance milliseconds => exact (Bool.or_false _).symm
  | log kind payload => exact hplain.elim
  | recapture => exact hplain.elim
  | leave =>
    rw [← stance_leave] at hleft
    exact hleft
  | abort => exact hleft

/-! ## After the completion -/

theorem hear_of_ne {listener : Listener} (h : ∀ signal, listener ≠ .recorder recorderId signal)
    (detail : Fields) : hear detail session listener = session := by
  cases listener with
  | host name => rfl
  | recorder id signal =>
    refine if_neg ?_
    rintro rfl
    exact h signal rfl

/-- A host where the session does not listen tells it nothing. -/
theorem emit_of_spares (h : ∀ environment ∈ session.environment, environment.Spares recorderId)
    (event : String) (detail : Fields) : session.emit event detail = session := by
  unfold emit
  cases henvironment : session.environment with
  | none => rfl
  | some environment =>
    -- none of those who hear the event is the session
    have hothers : ∀ listener ∈ environment.hearers event, ∀ signal,
        listener ≠ .recorder recorderId signal := by
      rintro _ hmem signal rfl
      exact (h environment henvironment).not_mem_hearers event signal hmem
    exact List.foldlRecOn (motive := fun now => now = session) _ _ rfl
      fun now hnow listener hmem => hnow ▸ hear_of_ne (hothers listener hmem) detail

/-- Nothing is entered into the journal of a completed session. -/
theorem Attends.log_perform (h : Attends given session)
    (hfree : ∀ environment ∈ given, environment.Spares recorderId) {call : SessionCall}
    (hplain : call.IsPlain) (hcomplete : session.isComplete = true) :
    (session.perform call).1.log = session.log
      ∧ (session.perform call).1.isComplete = true := by
  have hended : session.traversal.isTerminal = true := h.complete_eq ▸ hcomplete
  obtain ⟨completion, hcompletion⟩ := Option.isSome_iff_exists.mp hended
  -- options are refused, the host is not listened to, and the other calls enter nothing
  cases call with
  | select optionId =>
    simp only [Session.perform, select, Traversal.select, Traversal.whileActive, hcompletion]
    exact ⟨trivial, hcomplete⟩
  | submit optionId =>
    have hrefused : session.traversal.submit optionId = .error (.terminated completion.finalStage) := by
      simp only [Traversal.submit, Traversal.whileActive, hcompletion]
    rw [perform_submit_of_refused hrefused]
    exact ⟨rfl, hcomplete⟩
  | emit event detail =>
    have henvironment : session.environment = given := by
      have hfits := h.fits.environment_eq
      rwa [isOver, hcomplete, Bool.true_or, if_pos rfl] at hfits
    rw [← henvironment] at hfree
    simp only [Session.perform, emit_of_spares hfree]
    exact ⟨trivial, hcomplete⟩
  | advance milliseconds => exact ⟨rfl, hcomplete⟩
  | log kind payload => exact hplain.elim
  | recapture => exact hplain.elim
  | leave =>
    have hadds := session.adds_perform .leave (by simp)
    exact ⟨hadds.log_eq_of_nothing fun _ => not_false, hadds.isComplete_eq.trans hcomplete⟩
  | abort =>
    have hadds := session.adds_perform .abort (by simp)
    exact ⟨hadds.log_eq_of_nothing fun _ => not_false, hadds.isComplete_eq.trans hcomplete⟩

end Session

end AdaptiveQuiz
