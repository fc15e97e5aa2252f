import AdaptiveQuiz.Proofs.Session.Parallel
import AdaptiveQuiz.Proofs.Session.Start

/-!
# What a session keeps for good

What a session is set up with at its start stays as it is, whatever is called. So what was found out
about a question before the start holds during the whole run: the document is the one that was
reviewed, the flow is the one that it was compiled to, and the threshold is the one that was asked
for.

## Main definitions

* `Session.Setup`, `Session.setup`: what is fixed at the start

## Main statements

* `Session.setup_run`: a run changes nothing of it
* `Session.started`: what a started session is set up with
-/

namespace AdaptiveQuiz

theorem Traversal.Step.flow_eq {traversal after : Traversal} {proposal : Proposal}
    {answer : Except TraversalError (Option Completion)} (h : traversal.Step proposal after answer) :
    after.flow = traversal.flow := by
  cases h <;> rfl

namespace Session

/-- What is fixed when a session starts. -/
structure Setup where
  settings : Settings
  manifest : Manifest
  document : Document
  context : SessionContext
  isPreview : Bool
  threshold : Int
  flow : Flow

/-- What a session was set up with. -/
def setup (session : Session) : Setup where
  settings := session.settings
  manifest := session.manifest
  document := session.document
  context := session.context
  isPreview := session.isPreview
  threshold := session.threshold
  flow := session.traversal.flow

variable {session before after : Session}

/-! ## Calls -/

@[simp] theorem setup_note (session : Session) (event : Event) :
    (session.note event).setup = session.setup := rfl

@[simp] theorem setup_report (session : Session) (notice : Notice) :
    (session.report notice).setup = session.setup := rfl

@[simp] theorem setup_openCapture (session : Session) :
    session.openCapture.setup = session.setup := rfl

@[simp] theorem setup_closeCapture (session : Session) :
    session.closeCapture.setup = session.setup := by
  unfold closeCapture
  split <;> rfl

@[simp] theorem setup_countMiss (session : Session) (isCorrect : Bool) :
    (session.countMiss isCorrect).setup = session.setup := by
  unfold countMiss
  split <;> rfl

@[simp] theorem setup_hear (session : Session) (detail : Fields) (listener : Listener) :
    (hear detail session listener).setup = session.setup := by
  unfold hear
  split
  · split <;> rfl
  · rfl

@[simp] theorem setup_emit (session : Session) (event : String) (detail : Fields) :
    (session.emit event detail).setup = session.setup := by
  unfold emit
  cases session.environment with
  | none => rfl
  | some environment =>
    simp only
    -- whichever listeners hear it, none of them changes the setup
    generalize environment.hearers event = listeners
    induction listeners generalizing session with
    | nil => rfl
    | cons listener rest ih => rw [List.foldl_cons, ih, setup_hear]

@[simp] theorem setup_abort (session : Session) : session.abort.setup = session.setup := by
  unfold abort
  split
  · rfl
  · exact setup_closeCapture session

@[simp] theorem setup_leave (session : Session) : session.leave.setup = session.setup := by
  simp only [leave]
  split
  · rfl
  · split <;> simp

@[simp] theorem setup_conclude (session : Session) (completion : Completion) :
    (session.conclude completion).1.setup = session.setup := by
  obtain ⟨notices, hconclude⟩ := session.exists_conclude_fst completion
  rw [hconclude]
  rfl

@[simp] theorem setup_finalize (session : Session) (completion : Completion) :
    (session.finalize completion).1.setup = session.setup := by
  show ((session.note _).closeCapture.conclude completion).1.setup = session.setup
  simp

/-- Wherever an action leads to, it stays on the flow. -/
@[simp] theorem setup_moved (session : Session) (submitted : Submitted) :
    (session.moved submitted).setup = session.setup := by
  have hcounted : (session.counted submitted).setup = session.setup := by simp [counted]
  have hflow := (session.traversal.step_carryOut (.action (session.taken submitted))).flow_eq
  -- the traversal is replaced by the one that the action leads to
  have hmoved : (session.moved submitted).setup = { (session.counted submitted).setup with
      flow := (session.traversal.carryOut (.action (session.taken submitted))).1.flow } := rfl
  rw [hmoved, hflow, hcounted]
  rfl

theorem setup_submit (session : Session) (optionId : String) :
    (session.submit optionId).1.setup = session.setup := by
  cases hsubmit : session.traversal.submit optionId with
  | error error => rw [submit_of_refused hsubmit]
  | ok submitted =>
    rw [submit_of_accepted hsubmit]
    split <;> simp

theorem setup_perform (session : Session) (call : SessionCall) :
    (session.perform call).1.setup = session.setup := by
  cases call with
  | select optionId =>
    simp only [perform, select]
    cases session.traversal.select optionId with
    | error error => rfl
    | ok event => rfl
  | submit optionId =>
    rw [fst_perform_submit]
    exact session.setup_submit optionId
  | emit event detail => exact setup_emit session event detail
  | advance milliseconds => rfl
  | log kind payload =>
    simp only [perform, logUnchecked]
    cases LogEntry.check kind payload (.integer session.clock.now) with
    | accepted entry => rfl
    | rejected first others => rfl
  | recapture =>
    simp only [perform, recapture]
    cases session.recorder.isCapturing with
    | true => rfl
    | false => simp
  | leave => exact setup_leave session
  | abort => exact setup_abort session

/-- A run changes nothing of what a session was set up with. -/
theorem setup_run (session : Session) (calls : List SessionCall) :
    (session.run calls).1.setup = session.setup :=
  run_invariant (P := fun now => now.setup = session.setup)
    (fun call _ now hnow => (now.setup_perform call).trans hnow) rfl

/-- The result depends on the setup, the journal and the completion alone. -/
theorem resultOn_of_setup_eq (h : after.setup = before.setup) (log : List LogEntry)
    (completion : Completion) : after.resultOn log completion = before.resultOn log completion := by
  have hpreview : after.isPreview = before.isPreview := congrArg Setup.isPreview h
  have hmanifest : after.manifest = before.manifest := congrArg Setup.manifest h
  have hsettings : after.settings = before.settings := congrArg Setup.settings h
  have hdocument : after.document = before.document := congrArg Setup.document h
  have hcontext : after.context = before.context := congrArg Setup.context h
  refine resultOn_congr hpreview ?_ completion
  rw [hmanifest, hsettings, hdocument, hcontext]

/-! ## Starting -/

variable {settings : Settings} {shared : Registry} {given : Option Registry}
  {options : SessionOptions} {question : Json}

/-- A started session has the manifest that was looked up, the document that was reviewed, the flow
that it was compiled to, and the options that it was started with. -/
theorem started (h : start? settings shared given options question = .ok session) :
    manifestFor (chooseRegistry shared given) question = .ok session.manifest
      ∧ documentFor session.manifest question = .ok session.document
      ∧ flowFor session.manifest session.document = .ok session.traversal.flow
      ∧ session.threshold = options.attemptsBeforeRepair.getD settings.attemptsBeforeRepair
      ∧ session.isPreview = options.isPreview := by
  obtain ⟨manifest, document, flow, traversal, hmanifest, hdocument, hflow, htraversal, rfl⟩ :=
    start?_eq_ok.mp h
  obtain ⟨stage, -, rfl⟩ := Traversal.start?_eq_ok.mp htraversal
  exact ⟨hmanifest, hdocument, hflow, rfl, rfl⟩

/-- The analytics of a started session are given its settings and its options. -/
theorem options_of_start? (h : start? settings shared given options question = .ok session) :
    session.settings = settings ∧ session.context = options.context
      ∧ session.isPreview = options.isPreview := by
  obtain ⟨manifest, document, flow, traversal, -, -, -, -, rfl⟩ := start?_eq_ok.mp h
  exact ⟨rfl, rfl, rfl⟩

/-- The clock is read twice by the start. -/
theorem clock_of_start? (h : start? settings shared given options question = .ok session) :
    session.clock = options.clock.tick.tick := by
  obtain ⟨manifest, document, flow, traversal, -, -, -, -, rfl⟩ := start?_eq_ok.mp h
  rfl

end Session

end AdaptiveQuiz
