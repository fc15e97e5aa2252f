import AdaptiveQuiz.Proofs.Analytics.Outcome
import AdaptiveQuiz.Proofs.Session.Completion
import AdaptiveQuiz.Proofs.Session.Gate
import AdaptiveQuiz.Proofs.Session.TypeLookup

/-!
# What a completed session reports

The result of a session of a built-in type says three times whether the question was passed: in the
result itself, in the completion that the flow left, and in the record of the analytics. All three
agree with the action that was applied last. A single choice question is over with the first
submission that is accepted, and its record names the choice that was submitted and the correct one.

## Main definitions

* `Session.Closes`: the entry of a journal that closed the question
* `Session.Reported`: a result that agrees with what was told and entered
* `Session.ReportedSingle`: what is reported about a single choice question

## Main statements

* `Session.analytics_of_mem_builtin`: which analytics a built-in type has
* `Session.fresh_run`: nothing happens to a single choice question before it is over
* `Session.outcome_agrees`
-/

namespace AdaptiveQuiz

open SessionReply

/-- An entry of the kinds that accepted submissions make is made by another call only by hand. -/
theorem SessionCall.Writes.eq_log {call : SessionCall} {kind : EventKind} (h : call.Writes kind)
    (hkind : kind = .submit ∨ kind = .submitStage) :
    ∃ payload, call = .log (.text kind.word) payload := by
  cases call with
  | log kind' payload => exact ⟨payload, by rw [show kind' = .text kind.word from h]⟩
  | select optionId =>
    rw [show kind = .selectOption from h] at hkind
    rcases hkind with hkind | hkind <;> cases hkind
  | submit optionId => cases h
  | emit event detail =>
    rcases h with h | h <;> rw [h] at hkind <;> rcases hkind with hkind | hkind <;> cases hkind
  | advance milliseconds => cases h
  | recapture =>
    rw [show kind = .mount from h] at hkind
    rcases hkind with hkind | hkind <;> cases hkind
  | leave => cases h
  | abort => cases h

namespace Session

variable {session before after : Session} {question : Json} {manifest : Manifest}
  {optionId : String} {submitted : Submitted} {completion : Completion}
  {completion? : Option Completion} {step : StepResult} {calls first rest : List SessionCall}

/-! ## Results -/

/-- A record in a result is the one of the analytics. -/
theorem analytics_of_resultOn {log : List LogEntry} {record : AnalyticsRecord}
    (h : (session.resultOn log completion).analytics = some record) :
    session.manifest.analytics session.settings session.document log session.context
      = .ok record := by
  unfold resultOn at h
  split at h
  · cases h
  · cases hanalytics : session.manifest.analytics session.settings session.document log
        session.context with
    | ok record' =>
      rw [hanalytics] at h
      cases h
      rfl
    | error failure =>
      rw [hanalytics] at h
      cases h

/-- Unless the session is a preview, a result without an error comes with a record. -/
theorem exists_record_of_resultOn {log : List LogEntry} (hpreview : session.isPreview = false)
    (hnone : (session.resultOn log completion).analyticsError = none) :
    ∃ record, (session.resultOn log completion).analytics = some record := by
  unfold resultOn at hnone ⊢
  rw [if_neg (by rw [hpreview]; exact Bool.false_ne_true)] at hnone ⊢
  cases hanalytics : session.manifest.analytics session.settings session.document log
      session.context with
  | ok record => exact ⟨record, rfl⟩
  | error failure =>
    rw [hanalytics] at hnone
    cases hnone

/-- The analytics of a built-in type are made for the documents of this type. -/
theorem analytics_of_mem_builtin {document : Document} (hmem : manifest ∈ Manifest.builtin)
    (hdocument : documentFor manifest question = .ok document) :
    (∃ single, document = .multipleChoice single ∧ manifest.analytics = Analytics.singleChoice)
      ∨ (∀ single, document ≠ .multipleChoice single)
        ∧ manifest.analytics = Analytics.multiStage := by
  have hkind := Document.kind_of_review (documentFor_eq_ok.mp hdocument)
  rw [Manifest.mem_builtin] at hmem
  cases document with
  | multipleChoice single =>
    rcases hmem with rfl | rfl | rfl
    · exact Or.inl ⟨single, rfl, rfl⟩
    · cases hkind
    · cases hkind
  | branching document =>
    rcases hmem with rfl | rfl | rfl
    · cases hkind
    · refine Or.inr ⟨fun single hother => ?_, rfl⟩
      cases hother
    · cases hkind
  | declarative document =>
    rcases hmem with rfl | rfl | rfl
    · cases hkind
    · cases hkind
    · refine Or.inr ⟨fun single hother => ?_, rfl⟩
      cases hother

/-! ## Single choice questions -/

section SingleChoice

variable {document : MultipleChoiceDocument}

/-- What the only stage of a single choice question offers are its choices. -/
theorem option?_single (document : MultipleChoiceDocument) (optionId : String) :
    (document.stage.resolved []).option? optionId
      = (document.choice? optionId).map fun choice =>
        (document.stageOption choice).resolved [] document.stage := by
  show ((document.choices.map document.stageOption).map
    (StageOption.resolved [] document.stage)).find? _ = _
  rw [List.find?_map, List.find?_map, Option.map_map]
  rfl

/-- A choice exits, and passes if it is the correct one. -/
theorem next_single (document : MultipleChoiceDocument) (choice : Choice) :
    ((document.stageOption choice).resolved [] document.stage).next
      = some (.exit (some (if choice.id = document.correctId then .pass else .fail))) := by
  have hresolution : resolution [] document.stage (document.stageOption choice)
      = ((Action.exit none).completed (document.stage.isCorrect (document.stageOption choice)),
        .explicit) := resolution_of_next rfl
  have hcorrect : document.stage.isCorrect (document.stageOption choice)
      = (choice.id == document.correctId) := by
    simp [Stage.isCorrect, MultipleChoiceDocument.stage, MultipleChoiceDocument.stageOption,
      AnswerKey.empty]
  rw [StageOption.resolved, hresolution, hcorrect]
  simp [Action.completed]

/-- The submission of a choice completes the question: the gate does not hold it back. -/
theorem Stepped.single (hcurrent : before.currentStage = document.stage.resolved [])
    (h : Stepped before optionId submitted completion? after step) :
    ∃ chosen, document.choice? optionId = some chosen ∧ submitted.option.id = optionId
      ∧ step.action = .exit (some (if optionId = document.correctId then .pass else .fail))
      ∧ completion?.isSome = true := by
  obtain ⟨-, hoption, hnext, -⟩ := Traversal.submit_eq_ok.mp h.submit_eq
  have hid := (Traversal.mem_and_id_of_option? hoption).2
  have hshown : before.traversal.current = document.stage.resolved [] := hcurrent
  rw [hshown, option?_single] at hoption
  obtain ⟨chosen, hchosen, hsubmitted⟩ := Option.map_eq_some_iff.mp hoption
  have hsame := (MultipleChoiceDocument.mem_and_id_of_choice? hchosen).2
  rw [← hsubmitted, next_single, Option.some.injEq, hsame] at hnext
  have hfree : submitted.option.nextSource ≠ some .attemptsExceeded := by
    rw [← hsubmitted]
    exact nofun
  have haction : step.action
      = .exit (some (if optionId = document.correctId then .pass else .fail)) := by
    rw [h.action_eq, h.answers.taken_eq, if_neg fun hheld => hfree hheld.1, hnext]
  refine ⟨chosen, hchosen, hid, haction, ?_⟩
  have hcarry := h.carryOut_eq
  rw [haction] at hcarry
  cases completion? with
  | none => cases congrArg Prod.snd hcarry
  | some completion => rfl

/-- A session to which nothing has happened since its start, unless its traversal has ended. -/
structure Fresh (start now : Session) (replies : List SessionReply) : Prop where
  onCourse : now.traversal.OnCourse
  unchanged : now.traversal.completion = none →
    now.traversal = start.traversal ∧ steps replies = []

theorem Fresh.perform {start : Session} {replies : List SessionReply}
    (hcurrent : start.currentStage = document.stage.resolved [])
    (h : Fresh start session replies) (call : SessionCall) :
    Fresh start (session.perform call).1 (replies ++ [(session.perform call).2]) := by
  refine ⟨onCourse_perform h.onCourse call, fun hopen => ?_⟩
  rcases perform_cases_of_onCourse h.onCourse call with
    ⟨⟨entries, hobserves, -⟩, hnone⟩ | ⟨_, submitted, completion?, step, -, -, hstepped⟩
  · rw [hobserves.traversal_eq] at hopen ⊢
    rw [steps_snoc_of_step?_none hnone]
    exact h.unchanged hopen
  · -- an accepted submission would have completed the question
    obtain ⟨hsame, -⟩ := h.unchanged (Traversal.submit_eq_ok.mp hstepped.submit_eq).1
    have hshown : session.currentStage = document.stage.resolved [] := by
      rw [currentStage, hsame]
      exact hcurrent
    obtain ⟨_, -, -, -, hsome⟩ := hstepped.single hshown
    obtain ⟨completion, rfl⟩ := Option.isSome_iff_exists.mp hsome
    rw [hstepped.answers.step.completion_eq] at hopen
    cases hopen

/-- Until it is over, nothing is changed about a single choice question, and no submission was
accepted. -/
theorem fresh_run (hcourse : session.traversal.OnCourse)
    (hcurrent : session.currentStage = document.stage.resolved []) (calls : List SessionCall) :
    Fresh session (session.run calls).1 (session.run calls).2 :=
  run_invariant_replies (P := Fresh session)
    (fun call _ _ _ hfresh => hfresh.perform hcurrent call) ⟨hcourse, fun _ => ⟨rfl, rfl⟩⟩

end SingleChoice

/-! ## Reports -/

/-- The entry that closed the question: the journal ended with it when the result was there for the
first time. Entries of its kind that come after it were made by hand. -/
def Closes (session : Session) (calls : List SessionCall) (result : SubmissionResult)
    (entry : LogEntry) : Prop :=
  entry.kind = .submit ∧ entry.payload = result.completion.toJson
    ∧ ∃ first rest optionId earlier later, calls = first ++ .submit optionId :: rest
      ∧ (session.run first).1.result = none
      ∧ (session.run (first ++ [.submit optionId])).1.result = some result
      ∧ (session.run (first ++ [.submit optionId])).1.log = earlier ++ [entry]
      ∧ (session.run calls).1.log = earlier ++ entry :: later
      ∧ ∀ other ∈ later, other.kind = .submit → ∃ payload, .log (.text "submit") payload ∈ rest

/-- A result that agrees with the completion, with the action that was applied last, and with the
record, which bears the time of the entry that closed the question. -/
structure Reported (session : Session) (calls : List SessionCall) (result : SubmissionResult) :
    Prop where
  completion_eq : result.isCorrect = result.completion.isCorrect
  last_step : ∃ earlier step, steps (session.run calls).2 = earlier ++ [step]
    ∧ step.completed = some result ∧ (result.isCorrect = true ↔ step.action = .exit (some .pass))
  record : result.analyticsError = none → ∃ record entry, result.analytics = some record
    ∧ record.isCorrect = result.isCorrect ∧ Closes session calls result entry
    ∧ record.timestamp = entry.timestamp

/-- What is reported about a single choice question: the first submission that was accepted completed
it, and it was right if the choice is the correct one. -/
structure ReportedSingle (document : MultipleChoiceDocument) (replies : List SessionReply)
    (result : SubmissionResult) (step : StepResult) : Prop where
  steps_eq : steps replies = [step]
  completed_eq : step.completed = some result
  path_eq : result.completion.path = [MultipleChoiceDocument.stageId]
  isCorrect_iff : result.isCorrect = true ↔ step.optionId = document.correctId
  answers : ∃ chosen correct, document.choice? step.optionId = some chosen
    ∧ document.choice? document.correctId = some correct
    ∧ ∀ record, result.analytics = some record →
      record.studentAnswer = .text chosen.text ∧ record.correctAnswer = .text correct.text

/-- The journal at the completion ends with the entry that the analytics look for. -/
theorem CompletedBy.terminalEvent_closed
    (h : CompletedBy session calls first rest optionId submitted completion step) :
    Analytics.terminalEvent (session.run (first ++ [.submit optionId])).1.log
      = .ok (.ofEvent ((session.run first).1.clock.reading 2) ⟨.submit, completion.toJson⟩) := by
  rw [h.log_eq]
  exact Analytics.terminalEvent_concat rfl

theorem CompletedBy.closes {result : SubmissionResult}
    (h : CompletedBy session calls first rest optionId submitted completion step)
    (hresult : (session.run calls).1.result = some result) :
    Closes session calls result
      (.ofEvent ((session.run first).1.clock.reading 2) ⟨.submit, completion.toJson⟩) := by
  have hcompletion := (h.result_completion hresult).1
  obtain ⟨entries, hobserves, hwrites⟩ := h.adds
  have hended := hobserves.result_eq
  rw [hresult] at hended
  have hlog := hobserves.log_eq
  rw [h.log_eq, List.append_assoc _ [_] entries] at hlog
  refine ⟨rfl, by rw [hcompletion]; rfl, first, rest, optionId, _, entries, h.calls_eq, h.active.2,
    hended.symm, h.log_eq, hlog, fun other hother hkind => ?_⟩
  obtain ⟨call, hcall, hwritten⟩ := hwrites other hother
  rw [hkind] at hwritten
  obtain ⟨payload, rfl⟩ := hwritten.eq_log (Or.inl rfl)
  exact ⟨payload, hcall⟩

/-- Where the record agrees with the completion on the journal at the completion, the result that is
left agrees with everything. -/
theorem CompletedBy.reported {result : SubmissionResult}
    (h : CompletedBy session calls first rest optionId submitted completion step)
    (hresult : (session.run calls).1.result = some result) (hpreview : session.isPreview = false)
    (hrecord : ∀ record, session.manifest.analytics session.settings session.document
      (session.run (first ++ [.submit optionId])).1.log session.context = .ok record →
      record.timestamp = (session.run first).1.clock.reading 2
        ∧ record.isCorrect = completion.isCorrect) :
    Reported session calls result := by
  obtain ⟨hcompletion, hcorrect⟩ := h.result_completion hresult
  have hcompleted : step.completed = some result := h.result_eq.symm.trans hresult
  refine ⟨by rw [hcorrect, hcompletion], ⟨_, step, h.steps_eq, hcompleted, ?_⟩, ?_⟩
  · rw [hcorrect]
    exact h.isCorrect_iff
  · intro hnone
    have hsame := h.completed_eq
    rw [hcompleted, Option.some.injEq] at hsame
    rw [hsame] at hnone
    obtain ⟨record, hanalytics⟩ := exists_record_of_resultOn hpreview hnone
    obtain ⟨htimestamp, hagrees⟩ := hrecord record (analytics_of_resultOn hanalytics)
    refine ⟨record, _, ?_, ?_, h.closes hresult, htimestamp⟩
    · rw [hsame]
      exact hanalytics
    · rw [hagrees, hcorrect]

section SingleChoice

variable {document : MultipleChoiceDocument}
  (h : CompletedBy session calls first rest optionId submitted completion step)
  (hcourse : session.traversal.OnCourse)
  (hcurrent : session.currentStage = document.stage.resolved [])

include h hcourse hcurrent

/-- Nothing happened before the submission that completed a single choice question. -/
theorem CompletedBy.fresh :
    (session.run first).1.traversal = session.traversal ∧ steps (session.run first).2 = [] :=
  (fresh_run hcourse hcurrent first).unchanged (Traversal.submit_eq_ok.mp h.stepped.submit_eq).1

theorem CompletedBy.single : ∃ chosen, document.choice? optionId = some chosen
    ∧ submitted.option.id = optionId
    ∧ (completion.isCorrect = true ↔ optionId = document.correctId) := by
  have hshown : (session.run first).1.currentStage = document.stage.resolved [] := by
    rw [currentStage, (h.fresh hcourse hcurrent).1]
    exact hcurrent
  obtain ⟨chosen, hchosen, hid, haction, -⟩ := h.stepped.single hshown
  refine ⟨chosen, hchosen, hid, ?_⟩
  rw [h.isCorrect_iff, haction]
  by_cases hright : optionId = document.correctId <;> simp [hright]

/-- The record of a single choice question agrees with the completion and names both choices. -/
theorem CompletedBy.record_single {record : AnalyticsRecord} {chosen correct : Choice}
    (hwell : document.WellFormed) (hchosen : document.choice? optionId = some chosen)
    (hright : document.choice? document.correctId = some correct)
    (hrecord : Analytics.singleChoice session.settings (.multipleChoice document)
      (session.run (first ++ [.submit optionId])).1.log session.context = .ok record) :
    record.timestamp = (session.run first).1.clock.reading 2
      ∧ record.isCorrect = completion.isCorrect ∧ record.studentAnswer = .text chosen.text
      ∧ record.correctAnswer = .text correct.text := by
  obtain ⟨_, -, hid, hcorrect⟩ := h.single hcourse hcurrent
  obtain ⟨hmem, hname⟩ := MultipleChoiceDocument.mem_and_id_of_choice? hchosen
  -- the analytics take an empty name for no answer, so it matters that choices have names
  have hne : submitted.option.id ≠ "" := by
    rw [hid, ← hname]
    exact hwell.id_ne_empty chosen hmem
  obtain ⟨-, -, -, hevent⟩ := Traversal.submit_eq_ok.mp h.stepped.submit_eq
  rw [h.log_eq, hevent] at hrecord
  rw [← hid] at hchosen
  obtain ⟨htimestamp, hagrees, hanswers⟩ :=
    Analytics.singleChoice_closed hne hchosen hright hrecord
  refine ⟨htimestamp, ?_, hanswers⟩
  rw [hagrees, hid, Bool.eq_iff_iff, beq_iff_eq]
  exact hcorrect.symm

/-- What is reported about a single choice question that was completed. -/
theorem CompletedBy.reportedSingle {result : SubmissionResult} (hwell : document.WellFormed)
    (hhistory : session.traversal.history = [])
    (hdocument : session.document = .multipleChoice document)
    (hanalytics : session.manifest.analytics = Analytics.singleChoice)
    (hresult : (session.run calls).1.result = some result) :
    ReportedSingle document (session.run calls).2 result step := by
  obtain ⟨hcompletion, hcorrect⟩ := h.result_completion hresult
  have hcompleted : step.completed = some result := h.result_eq.symm.trans hresult
  obtain ⟨htraversal, hsteps⟩ := h.fresh hcourse hcurrent
  obtain ⟨chosen, hchosen, -, hiff⟩ := h.single hcourse hcurrent
  obtain ⟨correct, hright⟩ := hwell.exists_correct
  refine ⟨?_, hcompleted, ?_, ?_, chosen, correct, ?_, hright, fun record hrecord => ?_⟩
  · rw [h.steps_eq, hsteps]
    rfl
  · -- the path is what was visited before, which is nothing, and the stage that was left
    obtain ⟨outcome, -, hpath⟩ := h.exits
    have hid : session.traversal.current.id = MultipleChoiceDocument.stageId := by
      rw [show session.traversal.current = document.stage.resolved [] from hcurrent]
      rfl
    rw [hcompletion, hpath, htraversal, Traversal.completionWith, hhistory, hid]
    rfl
  · rw [hcorrect, h.stepped.optionId_eq]
    exact hiff
  · rw [h.stepped.optionId_eq]
    exact hchosen
  · have hsame := h.completed_eq
    rw [hcompleted, Option.some.injEq] at hsame
    rw [hsame] at hrecord
    have hok := analytics_of_resultOn hrecord
    rw [hanalytics, hdocument] at hok
    exact (h.record_single hcourse hcurrent hwell hchosen hright hok).2.2

end SingleChoice

/-- A single choice question that was started is well-formed and shows its only stage. -/
theorem single_of_started {document : MultipleChoiceDocument}
    (hdocument : documentFor session.manifest question = .ok session.document)
    (hflow : flowFor session.manifest session.document = .ok session.traversal.flow)
    (hcourse : session.traversal.OnCourse) (heq : session.document = .multipleChoice document) :
    document.WellFormed ∧ session.currentStage = document.stage.resolved [] := by
  rw [heq] at hdocument hflow
  refine ⟨MultipleChoiceDocument.wellFormed_of_schema
    (Document.schema_of_review_multipleChoice (documentFor_eq_ok.mp hdocument)), ?_⟩
  -- there is one stage to be shown
  have hmem := hcourse.current_mem
  rw [stages_of_flowFor hdocument hflow] at hmem
  exact List.mem_singleton.mp hmem

/-- The analytics of a built-in type agree with the completion on the journal at the completion. -/
theorem CompletedBy.record_builtin {record : AnalyticsRecord}
    (h : CompletedBy session calls first rest optionId submitted completion step)
    (hdocument : documentFor session.manifest question = .ok session.document)
    (hflow : flowFor session.manifest session.document = .ok session.traversal.flow)
    (hcourse : session.traversal.OnCourse) (hbuiltin : session.manifest ∈ Manifest.builtin)
    (hrecord : session.manifest.analytics session.settings session.document
      (session.run (first ++ [.submit optionId])).1.log session.context = .ok record) :
    record.timestamp = (session.run first).1.clock.reading 2
      ∧ record.isCorrect = completion.isCorrect := by
  rcases analytics_of_mem_builtin hbuiltin hdocument with
    ⟨document, heq, hanalytics⟩ | ⟨-, hanalytics⟩
  · obtain ⟨hwell, hcurrent⟩ := single_of_started hdocument hflow hcourse heq
    obtain ⟨chosen, hchosen, -⟩ := h.single hcourse hcurrent
    obtain ⟨correct, hright⟩ := hwell.exists_correct
    rw [hanalytics, heq] at hrecord
    obtain ⟨htimestamp, hagrees, -⟩ :=
      h.record_single hcourse hcurrent hwell hchosen hright hrecord
    exact ⟨htimestamp, hagrees⟩
  · -- of the journal, multi-stage analytics need the last entry
    rw [hanalytics, h.log_eq] at hrecord
    exact Analytics.multiStage_closed hrecord

/-! ## Whole runs -/

/-- Whenever a session of a built-in type is completed, without being a preview, its result agrees
with the completion and with the action that was applied last, and so does the record, if the
analytics did not fail, which bears the time of the entry that closed the question. A single choice
question is completed by the first submission that is accepted, on the path of its only stage. It is
right exactly if the correct choice was submitted, and the record names the choice that was submitted
and the correct one. -/
theorem outcome_agrees {settings : Settings} {shared : Registry} {given : Option Registry}
    {options : SessionOptions} (hstart : start? settings shared given options question = .ok session)
    (hbuiltin : session.manifest ∈ Manifest.builtin) (hpreview : options.isPreview = false)
    (calls : List SessionCall) :
    let now := (session.run calls).1
    let replies := (session.run calls).2
    (∀ result, now.result = some result → Reported session calls result)
    ∧ ∀ document, session.document = .multipleChoice document →
      (now.result = none ∧ steps replies = [])
      ∨ ∃ step result, now.result = some result ∧ ReportedSingle document replies result step := by
  intro now replies
  obtain ⟨-, hdocument, hflow, -, hpreview'⟩ := started hstart
  rw [hpreview] at hpreview'
  obtain ⟨flow, hsound, hbegins⟩ := exists_sound_of_start? hstart
  have hcourse := Traversal.onCourse_of_start? hsound hbegins.traversal_eq
  have hrun := active_or_completedBy hcourse (active_begin hbegins) calls
  constructor
  · intro result hresult
    rcases hrun with hactive | ⟨first, rest, optionId, submitted, completion, step, hcompleted⟩
    · rw [hactive.2] at hresult
      cases hresult
    · exact hcompleted.reported hresult hpreview' fun record hrecord =>
        hcompleted.record_builtin hdocument hflow hcourse hbuiltin hrecord
  · intro document heq
    obtain ⟨hwell, hcurrent⟩ := single_of_started hdocument hflow hcourse heq
    rcases hrun with hactive | ⟨first, rest, optionId, submitted, completion, step, hcompleted⟩
    · exact Or.inl ⟨hactive.2, ((fresh_run hcourse hcurrent calls).unchanged hactive.1).2⟩
    · have hanalytics : session.manifest.analytics = Analytics.singleChoice := by
        rcases analytics_of_mem_builtin hbuiltin hdocument with ⟨_, -, hsame⟩ | ⟨hother, -⟩
        · exact hsame
        · exact absurd heq (hother document)
      have hresult : now.result = some _ := hcompleted.result_eq.trans hcompleted.completed_eq
      exact Or.inr ⟨step, _, hresult, hcompleted.reportedSingle hcourse hcurrent hwell
        hbegins.history_eq heq hanalytics hresult⟩

end Session

namespace Detour

/-- A raw single choice question. -/
def rawChoice : Json :=
  .object [("prompt", .text "Which one?"), ("options", .array [rawOption "a" [], rawOption "b" []]),
    ("correct_option_id", .text "a")]

/-- The question as it is read. -/
def choice : MultipleChoiceDocument :=
  ⟨none, none, "Which one?", [⟨"a", "a", none⟩, ⟨"b", "b", none⟩], "a", none, []⟩

/-- The single choice question, started on the built-in types. -/
def startedChoice : Except StartFailure Session :=
  Session.start? .standard (Registry.shared .standard).1 none options
    (typed "multiple-choice" rawChoice)

/-- The wrong choice completes the question, and the right one comes too late. -/
theorem choice_reported : ∃ session result record step, startedChoice = .ok session
    ∧ (session.run [.submit "b", .submit "a"]).1.result = some result
    ∧ result.analytics = some record ∧ record.isCorrect = result.isCorrect
    ∧ SessionReply.steps (session.run [.submit "b", .submit "a"]).2 = [step]
    ∧ (result.isCorrect = true ↔ step.optionId = "a") := by
  have hnow : startedChoice.toOption.bind (fun session =>
      (session.run [.submit "b", .submit "a"]).1.result.map fun result =>
        (session.document, result.analyticsError)) = some (.multipleChoice choice, none) := by
    decide +kernel
  obtain ⟨session, hstart, hcompleted⟩ := except_toOption_bind_eq_some.mp hnow
  obtain ⟨result, hresult, hfields⟩ := Option.map_eq_some_iff.mp hcompleted
  obtain ⟨hdocument, hnone⟩ := Prod.mk.inj hfields
  have hbuiltin : session.manifest ∈ Manifest.builtin := Session.manifest_mem_builtin hstart
  obtain ⟨hreported, hsingle⟩ :=
    Session.outcome_agrees hstart hbuiltin rfl [.submit "b", .submit "a"]
  obtain ⟨record, _, hrecord, hagrees, -⟩ := (hreported result hresult).record hnone
  rcases hsingle choice hdocument with ⟨hactive, -⟩ | ⟨step, result', hresult', htold⟩
  · rw [hactive] at hresult
    cases hresult
  · rw [hresult, Option.some.injEq] at hresult'
    rw [← hresult'] at htold
    exact ⟨session, result, record, step, hstart, hresult, hrecord, hagrees, htold.steps_eq,
      htold.isCorrect_iff⟩

end Detour

end AdaptiveQuiz
