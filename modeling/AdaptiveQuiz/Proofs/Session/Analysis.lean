import AdaptiveQuiz.Proofs.Analytics.Measures
import AdaptiveQuiz.Proofs.Journal.Account
import AdaptiveQuiz.Proofs.Session.Journal
import AdaptiveQuiz.Proofs.Session.Outcome

/-!
# Completed sessions have a record

Analytics that fail are noticed in the service log only, so they had better not. On the journal of a
completed session of a built-in type they succeed: the journal ends with the completion, whose path is
never empty and never longer than the journal, and what the session enters about a submission can be
read. By hand, entries of any kind may be made; only a submission whose details are no object is in
the way.

## Main definitions

* `SessionCall.IsLegible`: a call that enters no submission that the analytics could not read
* `Session.Readable`: a session with a journal that they can read

## Main statements

* `Session.Readable.perform`, `Session.readable_run`
* `Session.CompletedBy.exists_record`: there is a record of the journal at the completion
* `Session.analytics_succeed`
-/

namespace AdaptiveQuiz

open Schema Analytics

/-- The details of an entry made of unchecked parts are those that were given. -/
theorem LogEntry.payload_of_check {kind payload timestamp : Json} {entry : LogEntry}
    (h : LogEntry.check kind payload timestamp = .accepted entry) : entry.payload = payload := by
  simp only [LogEntry.check, LogEntry.schema, record, Checked.seq_eq_accepted,
    Checked.map_eq_accepted] at h
  obtain ⟨_, _, ⟨_, _, ⟨_, -, rfl⟩, hpayload, rfl⟩, -, rfl⟩ := h
  rcases optional_eq_accepted.mp hpayload with ⟨hnone, -⟩ | ⟨v, hv, haccepted⟩
  · cases hnone
  · cases hv
    cases haccepted
    rfl

/-- If a submission is entered by hand, its details are an object, or count as not given. -/
def SessionCall.IsLegible : SessionCall → Prop
  | .log kind payload =>
    kind = .text EventKind.submitStage.word → ∃ fields, detailFields payload = .ok fields
  | _ => True

/-- What the learner, the host and the clock do is legible. -/
theorem SessionCall.IsPlain.isLegible {call : SessionCall} (h : call.IsPlain) : call.IsLegible := by
  cases call with
  | log kind payload => cases h
  | _ => trivial

theorem Traversal.Step.length_history_le {traversal after : Traversal} {proposal : Proposal}
    {answer : Except TraversalError (Option Completion)} (h : traversal.Step proposal after answer) :
    after.history.length ≤ traversal.history.length + 1 := by
  cases h <;> simp

namespace Session

variable {session before after : Session} {question : Json} {optionId : String}
  {submitted : Submitted} {completion : Completion} {step : StepResult}
  {calls first rest : List SessionCall}

/-! ## Journals that can be read -/

/-- A session whose entries can be read, with more entries than stages that were left. -/
structure Readable (session : Session) : Prop where
  legible : ∀ entry ∈ session.log, entry.IsLegible
  history_le : session.traversal.history.length ≤ session.log.length

theorem readable_begin {flow : Flow} (h : Begins flow session) : Readable session where
  legible := by
    obtain ⟨clock, hlog⟩ := h.exists_log_eq
    rw [hlog]
    simp [LogEntry.IsLegible, LogEntry.ofEvent, Recorder.mounted, viewed]
  history_le := by
    rw [h.history_eq]
    exact Nat.zero_le _

/-- What is entered by hand is the entry that was made of the parts given, if one was made. -/
theorem log_perform_log (session : Session) (kind payload : Json) :
    (session.perform (.log kind payload)).1.log = session.log
      ∨ ∃ entry, LogEntry.check kind payload (.integer session.clock.now) = .accepted entry
        ∧ (session.perform (.log kind payload)).1.log = session.log ++ [entry] := by
  simp only [perform, logUnchecked]
  cases hcheck : LogEntry.check kind payload (.integer session.clock.now) with
  | accepted entry => exact Or.inr ⟨entry, rfl, rfl⟩
  | rejected issue others => exact Or.inl rfl

/-- A call that only adds entries adds none that cannot be read. -/
theorem legible_of_observes {call : SessionCall} {entries : List LogEntry}
    (hobserves : Observes session (session.perform call).1 entries)
    (hwrites : ∀ entry ∈ entries, call.Writes entry.kind) (hcall : call.IsLegible) :
    ∀ entry ∈ entries, entry.IsLegible := by
  intro entry hentry hkind
  have hwritten := hwrites entry hentry
  rw [hkind] at hwritten
  -- submissions are entered by hand only
  obtain ⟨payload, rfl⟩ := hwritten.eq_log (Or.inr rfl)
  rcases session.log_perform_log (.text EventKind.submitStage.word) payload with
    hsame | ⟨made, hcheck, hmade⟩
  · rw [hobserves.log_eq, List.append_right_eq_self] at hsame
    rw [hsame] at hentry
    cases hentry
  · rw [hobserves.log_eq, List.append_cancel_left_eq] at hmade
    rw [hmade, List.mem_singleton] at hentry
    rw [hentry, LogEntry.payload_of_check hcheck]
    exact hcall rfl

/-- What is entered about an accepted submission can be read. -/
theorem legible_of_answers {answer : Except TraversalError (Option Completion)}
    (hsubmit : before.traversal.submit optionId = .ok submitted) (now later last : Int) :
    ∀ entry ∈ .ofEvent now submitted.event
      :: .ofEvent later (before.traversal.transition (.action (before.taken submitted)))
      :: closing last answer, entry.IsLegible := by
  have hevent := (Traversal.submit_eq_ok.mp hsubmit).2.2.2
  intro entry hentry hkind
  rcases List.mem_cons.mp hentry with rfl | hentry
  · rw [LogEntry.ofEvent, hevent]
    exact ⟨_, rfl⟩
  · -- the other entries are of other kinds
    rcases List.mem_cons.mp hentry with rfl | hentry
    · cases hkind
    · rw [closing_kind hentry] at hkind
      cases hkind

theorem Readable.perform {call : SessionCall} (h : Readable session) (hcall : call.IsLegible) :
    Readable (session.perform call).1 := by
  rcases session.perform_cases call with
    ⟨entries, hobserves, hwrites⟩ | ⟨optionId, submitted, answer, rfl, hsubmit, hanswers⟩
  · refine ⟨?_, ?_⟩
    · rw [hobserves.log_eq]
      exact List.forall_mem_append.mpr ⟨h.legible, legible_of_observes hobserves hwrites hcall⟩
    · rw [hobserves.traversal_eq, hobserves.log_eq, List.length_append]
      exact Nat.le_add_right_of_le h.history_le
  · -- a submission leaves one stage at most, and makes two entries at least
    refine ⟨?_, ?_⟩
    · rw [hanswers.log_eq]
      exact List.forall_mem_append.mpr ⟨h.legible, legible_of_answers hsubmit _ _ _⟩
    · have hsteps := hanswers.step.length_history_le
      have hkept := h.history_le
      rw [hanswers.log_eq, List.length_append, List.length_cons]
      omega

/-- As long as no submission is entered by hand that could not be read, the journal can be read. -/
theorem readable_run (h : Readable session) (hcalls : ∀ call ∈ calls, call.IsLegible) :
    Readable (session.run calls).1 :=
  run_invariant (P := Readable) (fun call hcall _ hnow => hnow.perform (hcalls call hcall)) h

/-! ## The record at the completion -/

namespace CompletedBy

variable (h : CompletedBy session calls first rest optionId submitted completion step)

include h

/-- The path of a completion is not longer than the journal that it closes. -/
theorem path_length_le (hreadable : Readable (session.run first).1) :
    completion.path.length ≤ (session.run (first ++ [.submit optionId])).1.log.length := by
  obtain ⟨outcome, -, rfl⟩ := h.exits
  have hkept := hreadable.history_le
  rw [h.log_eq, Traversal.completionWith]
  simp only [List.length_append, List.length_cons, List.length_nil]
  omega

/-- The journal only grows after the completion. -/
theorem log_length_le : (session.run (first ++ [.submit optionId])).1.log.length
    ≤ (session.run calls).1.log.length := by
  obtain ⟨entries, hobserves, -⟩ := h.adds
  rw [hobserves.log_eq, List.length_append]
  exact Nat.le_add_right _ _

theorem isComplete : (session.run (first ++ [.submit optionId])).1.isComplete = true := by
  rw [Session.isComplete, h.stepped.result_eq, h.completed_eq]
  rfl

/-- There is a record of the journal at the completion, if the question has several stages. -/
theorem exists_multiStageRecord (hdocument : ∀ single, session.document ≠ .multipleChoice single)
    (hbegin : Readable session) (hlegible : ∀ call ∈ calls, call.IsLegible)
    (hlength : (session.run calls).1.log.length < 10 ^ 300) :
    ∃ record, multiStage session.settings session.document
      (session.run (first ++ [.submit optionId])).1.log session.context = .ok record := by
  have hsplit := h.calls_eq
  have hbefore : Readable (session.run first).1 := readable_run hbegin fun call hcall =>
    hlegible call (by simp [hsplit, hcall])
  have hnow : Readable (session.run (first ++ [.submit optionId])).1 :=
    readable_run hbegin fun call hcall => hlegible call (by
      rw [hsplit, List.append_cons]
      exact List.mem_append_left _ hcall)
  -- what is not too long for a journal is not too long for the time that is expected for it
  have hlimit : completion.path.length ≤ 10 ^ 300 :=
    Nat.le_trans (h.path_length_le hbefore) (Nat.le_trans h.log_length_le (Nat.le_of_lt hlength))
  exact exists_multiStage hdocument h.terminalEvent_closed h.path_ne_nil hlimit hnow.legible
    session.settings session.context

/-- There is a record of the journal at the completion. -/
theorem exists_record (hdocument : documentFor session.manifest question = .ok session.document)
    (hbuiltin : session.manifest ∈ Manifest.builtin)
    (hbegin : Readable session) (hlegible : ∀ call ∈ calls, call.IsLegible)
    (hlength : (session.run calls).1.log.length < 10 ^ 300)
    {expected : Binary64}
    (hexpected : Binary64.ofInt? session.settings.expectedDuration = some expected) :
    ∃ record, session.manifest.analytics session.settings session.document
        (session.run (first ++ [.submit optionId])).1.log session.context = .ok record
      ∧ Measured session.settings (session.run (first ++ [.submit optionId])).1.log
        session.context record := by
  rcases analytics_of_mem_builtin hbuiltin hdocument with
    ⟨document, heq, hanalytics⟩ | ⟨hother, hanalytics⟩
  · -- the option that closed the question is the one that was submitted last
    have hsubmitted : submittedOption (session.run (first ++ [.submit optionId])).1.log
        = .ok (some (.text submitted.option.id)) := by
      rw [h.log_eq, (Traversal.submit_eq_ok.mp h.stepped.submit_eq).2.2.2]
      exact submittedOption_closed _ _ _ _
    rw [hanalytics, heq]
    obtain ⟨record, hrecord⟩ :=
      exists_singleChoice h.terminalEvent_closed hsubmitted hexpected session.context
    exact ⟨record, hrecord, singleChoice_measured hrecord⟩
  · rw [hanalytics]
    obtain ⟨record, hrecord⟩ := h.exists_multiStageRecord hother hbegin hlegible hlength
    exact ⟨record, hrecord, multiStage_measured hrecord⟩

end CompletedBy

theorem resultOn_of_ok {log : List LogEntry} {record : AnalyticsRecord}
    (hpreview : session.isPreview = false)
    (hrecord : session.manifest.analytics session.settings session.document log session.context
      = .ok record) :
    session.resultOn log completion = ⟨completion.isCorrect, completion, some record, none⟩ := by
  rw [resultOn, if_neg (by rw [hpreview]; exact Bool.false_ne_true), hrecord]

/-! ## Whole runs -/

/-- Whenever a session of a built-in type is completed under the standard settings, without being a
preview, its analytics succeed, whatever the clock did and whatever else was called. The record passes
its own check and conforms with the journal at the completion, which remains the journal of the session
as long as nothing is entered by hand. -/
theorem analytics_succeed {shared : Registry} {given : Option Registry} {options : SessionOptions}
    (hstart : start? .standard shared given options question = .ok session)
    (hbuiltin : session.manifest ∈ Manifest.builtin) (hpreview : options.isPreview = false)
    {raw : Json} (hcontext : SessionContext.schema raw = .accepted options.context)
    (hlegible : ∀ call ∈ calls, call.IsLegible)
    (hlength : (session.run calls).1.log.length < 10 ^ 300)
    {result : SubmissionResult} (hresult : (session.run calls).1.result = some result) :
    result.analyticsError = none
    ∧ ∃ first optionId rest journal record, calls = first ++ .submit optionId :: rest
      ∧ (session.run first).1.result = none
      ∧ (session.run (first ++ [.submit optionId])).1.log = journal
      ∧ result.analytics = some record
      ∧ Conforms .standard journal options.context record
      ∧ ((∀ environment ∈ options.environment, environment.Spares recorderId) →
        (∀ call ∈ calls, call.IsPlain) → (session.run calls).1.log = journal) := by
  obtain ⟨-, hdocument, -, -, -⟩ := started hstart
  obtain ⟨hsettings, hoptions, hpreview'⟩ := options_of_start? hstart
  obtain ⟨flow, hsound, hbegins⟩ := exists_sound_of_start? hstart
  rcases active_or_completedBy_of_start? hstart calls with
    hactive | ⟨first, rest, optionId, submitted, completion, step, hcompleted⟩
  · rw [hactive.2] at hresult
    cases hresult
  obtain ⟨expected, hexpected⟩ := exists_standardDuration
  rw [← hsettings] at hexpected
  obtain ⟨record, hrecord, hmeasured⟩ := hcompleted.exists_record hdocument hbuiltin
    (readable_begin hbegins) hlegible hlength hexpected
  have hsame : result = ⟨completion.isCorrect, completion, some record, none⟩ := by
    rw [hcompleted.result_eq, hcompleted.completed_eq,
      resultOn_of_ok (hpreview'.trans hpreview) hrecord] at hresult
    exact (Option.some.inj hresult).symm
  rw [hsettings, hoptions] at hmeasured
  have hconforms := hmeasured.conforms fun attempt hattempt mastery hmastery =>
    SessionContext.inUnit_of_schema hcontext hattempt hmastery
  refine ⟨by rw [hsame], first, optionId, rest, _, record, hcompleted.calls_eq, hcompleted.active.2,
    rfl, by rw [hsame], hconforms, fun hfree hplain => ?_⟩
  -- what is called after the completion enters nothing
  have hsplit := hcompleted.calls_eq
  rw [List.append_cons] at hsplit
  subst hsplit
  have hattends : Attends options.environment (session.run (first ++ [.submit optionId])).1 :=
    attends_run (attends_begin hstart) hfree fun call hcall =>
      hplain call (List.mem_append_left _ hcall)
  rw [run_append]
  exact log_run_of_isComplete hattends hfree hcompleted.isComplete fun call hcall =>
    hplain call (List.mem_append_right _ hcall)

end Session

namespace Detour

/-- What is told of a learner who failed before. -/
def rawReturning : Json :=
  .object [("atom_history", .array [
    .object [("is_correct", .bool false), ("mastery_after", .number (.ofDecimal false 4 (-1)))]])]

/-- The options for this learner. -/
def optionsOfReturning : SessionOptions :=
  { options with
    context := { SessionContext.anonymous with
      history := [⟨false, some (.ofDecimal false 4 (-1))⟩] } }

/-- The question with a detour, started for this learner. -/
def startedReturning : Except StartFailure Session :=
  Session.start? .standard (Registry.shared .standard).1 none optionsOfReturning
    (typed "mcq-declarative" raw)

/-- A visit that looks away once and fails, on a clock that goes back. -/
def hasty : List SessionCall := [.emit "blur" [], .submit "c", .advance (-50), .submit "b"]

/-- There is a record of this visit, which passes its own check. -/
theorem hasty_analyzed : ∃ session result record, startedReturning = .ok session
    ∧ (session.run hasty).1.result = some result ∧ result.analyticsError = none
    ∧ result.analytics = some record
    ∧ AnalyticsRecord.schema record.toJson = .accepted record
    ∧ 0 ≤ record.timeSpent ∧ record.attemptNumber = 2 ∧ record.distractionScore = 20 := by
  have hnow : startedReturning.toOption.map (fun session => ((session.run hasty).1.isComplete,
      decide ((session.run hasty).1.log.length < 10 ^ 300),
      (session.run hasty).1.log.countP (·.kind == .blur))) = some (true, true, 1) := by
    decide +kernel
  obtain ⟨session, hstart, hfields⟩ := except_toOption_map_eq_some.mp hnow
  simp only [Prod.mk.injEq, decide_eq_true_eq] at hfields
  obtain ⟨hcomplete, hlength, hblurs⟩ := hfields
  obtain ⟨result, hresult⟩ := Option.isSome_iff_exists.mp hcomplete
  have hbuiltin : session.manifest ∈ Manifest.builtin := Session.manifest_mem_builtin hstart
  have hcontext : SessionContext.schema rawReturning = .accepted optionsOfReturning.context := by
    decide +kernel
  have hfree : ∀ environment ∈ optionsOfReturning.environment,
      environment.Spares Session.recorderId := by
    rintro _ ⟨⟩ event signal
    exact List.not_mem_nil
  have hplain : ∀ call ∈ hasty, call.IsPlain := by simp [hasty, SessionCall.IsPlain]
  obtain ⟨hnone, _, _, _, journal, record, -, -, -, hrecord, hconforms, hjournal⟩ :=
    Session.analytics_succeed hstart hbuiltin rfl hcontext
      (fun call hcall => (hplain call hcall).isLegible) hlength hresult
  have hscore := hconforms.distractionScore_eq
  rw [← hjournal hfree hplain, hblurs] at hscore
  exact ⟨session, result, record, hstart, hresult, hnone, hrecord, hconforms.accepted,
    hconforms.timeSpent_nonneg, hconforms.attemptNumber_eq, hscore⟩

/-- A submission that is entered by hand, with details that are no object, is in the way. -/
example : started.toOption.bind (fun session =>
    (session.run [.log (.text "submit_stage") (.text "?"), .submit "b"]).1.result.map
      SubmissionResult.analyticsError) = some (some "'str' object has no attribute 'get'") := by
  decide +kernel

end Detour

end AdaptiveQuiz
