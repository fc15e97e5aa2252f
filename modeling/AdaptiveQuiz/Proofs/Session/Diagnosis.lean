import AdaptiveQuiz.Proofs.Analytics.Diagnosis
import AdaptiveQuiz.Proofs.Session.Analysis

/-!
# The diagnosis of a multi-stage session

What the record of a multi-stage question says of the learner can be said of the run alone. The answer
is the path that was taken, the time is that from the mount to the completion, and a pass is a
recovery if remediation was on the path. A fail is put down to the latest misconception. The analytics
search the journal for it; here it is found among the replies, with the options as they were authored,
and an invariant ties the two together: each accepted submission adds what its option stands for, and
nothing else that is called does, unless a submission is entered by hand.

## Main definitions

* `StepResult.misconception?`, `SessionReply.latestMisconception?`: what steps tell of the learner
* `Session.Remembers`: a session whose journal tells the latest misconception of its replies
* `Session.Diagnosed`: a record that tells what was done

## Main statements

* `Session.Remembers.perform`, `Session.remembers_run`
* `Session.diagnosis_told`
-/

namespace AdaptiveQuiz

open Analytics SessionReply

/-- The misconception that a step tells of: that of the option that was submitted, as it was
authored. -/
def StepResult.misconception? (stages : List Stage) (step : StepResult) : Option String :=
  (stage? stages step.stageId).bind fun stage =>
    (stage.option? step.optionId).bind stage.misconception?

namespace SessionReply

/-- The misconception of the latest step that tells of one. -/
def latestMisconception? (stages : List Stage) (replies : List SessionReply) : Option String :=
  ((steps replies).filterMap (StepResult.misconception? stages)).getLast?

variable {stages : List Stage} {replies more : List SessionReply} {step : StepResult}

theorem latestMisconception?_concat (h : steps more = steps replies ++ [step]) :
    latestMisconception? stages more
      = (step.misconception? stages).or (latestMisconception? stages replies) := by
  rw [latestMisconception?, h, List.filterMap_append, List.getLast?_append, latestMisconception?]
  cases hstep : step.misconception? stages with
  | none => simp [hstep]
  | some text => simp [hstep]

/-- An empty diagnostic is no misconception. -/
theorem latestMisconception?_ne_empty : latestMisconception? stages replies ≠ some "" := by
  intro h
  obtain ⟨step, -, hstep⟩ := List.mem_filterMap.mp (List.mem_of_getLast? h)
  obtain ⟨stage, -, hoption⟩ := Option.bind_eq_some_iff.mp hstep
  obtain ⟨option, -, hempty⟩ := Option.bind_eq_some_iff.mp hoption
  unfold Stage.misconception? at hempty
  split at hempty
  · cases hempty
  · simp at hempty

end SessionReply

namespace Session

variable {session before after : Session} {question : Json} {optionId : String}
  {submitted : Submitted} {completion : Completion} {completion? : Option Completion}
  {step : StepResult} {calls first rest : List SessionCall} {stages : List Stage}
  {rules : List DeclarativeStage}

/-! ## Misconceptions of a run -/

/-- Compilation does not touch what an option says of the learner. -/
theorem Stepped.misconception?_eq (h : Stepped before optionId submitted completion? after step)
    (hcourse : before.traversal.OnCourse)
    (hflow : before.traversal.flow.stages = stages.map (Stage.resolved rules))
    (hnodup : (stages.map Stage.id).Nodup) :
    step.misconception? stages
      = before.traversal.current.misconception? submitted.option := by
  obtain ⟨-, hoption, -, -⟩ := Traversal.submit_eq_ok.mp h.submit_eq
  have hmem := hcourse.current_mem
  rw [hflow] at hmem
  obtain ⟨original, horiginal, hcurrent⟩ := List.mem_map.mp hmem
  have hstage : stage? stages step.stageId = some original := by
    rw [h.stageId_eq, currentStage, ← hcurrent]
    exact (stage?_eq_some hnodup).mpr ⟨horiginal, rfl⟩
  rw [← hcurrent, Stage.resolved,
    Stage.option?_mapOptions (f := StageOption.resolved rules original) fun _ => rfl] at hoption
  obtain ⟨authored, hauthored, hresolved⟩ := Option.map_eq_some_iff.mp hoption
  rw [StepResult.misconception?, hstage, Option.bind_some, h.optionId_eq, hauthored,
    Option.bind_some, ← hcurrent, ← hresolved]
  rfl

/-- A session on course, on the flow of some stages, whose journal tells the latest misconception that
its replies tell. -/
structure Remembers (stages : List Stage) (rules : List DeclarativeStage) (session : Session)
    (replies : List SessionReply) : Prop where
  onCourse : session.traversal.OnCourse
  stages_eq : session.traversal.flow.stages = stages.map (Stage.resolved rules)
  misconception_eq :
    lastMisconception session.log = .ok (latestMisconception? stages replies)

theorem remembers_begin {flow : Flow} (hsound : flow.Sound) (h : Begins flow session)
    (hstages : flow.stages = stages.map (Stage.resolved rules)) :
    Remembers stages rules session [] where
  onCourse := Traversal.onCourse_of_start? hsound h.traversal_eq
  stages_eq := by rw [h.flow_eq, hstages]
  misconception_eq := by
    obtain ⟨clock, hlog⟩ := h.exists_log_eq
    rw [hlog]
    rfl

/-- An accepted submission is remembered with what its option says of the learner. -/
theorem Stepped.lastMisconception_eq {found : Option String}
    (h : Stepped before optionId submitted completion? after step)
    (hfound : lastMisconception before.log = .ok found) : lastMisconception after.log
      = .ok ((before.traversal.current.misconception? submitted.option).or found) := by
  have hlater : ∀ entry ∈ .ofEvent (before.clock.reading 1)
      (before.traversal.transition (.action (before.taken submitted)))
        :: closing (before.clock.reading 2) (.ok completion?), entry.kind ≠ .submitStage := by
    intro entry hentry
    rcases List.mem_cons.mp hentry with rfl | hentry
    · exact nofun
    · rw [closing_kind hentry]
      exact nofun
  -- the submission comes first, and the entries after it are of other kinds
  rw [h.answers.log_eq, List.append_cons, lastMisconception_append_of_ne hlater,
    (Traversal.submit_eq_ok.mp h.submit_eq).2.2.2]
  exact lastMisconception_submission hfound _ _ _

theorem Remembers.perform {replies : List SessionReply} {call : SessionCall}
    (hnodup : (stages.map Stage.id).Nodup) (h : Remembers stages rules session replies)
    (hhands : ¬ call.Writes .submitStage) :
    Remembers stages rules (session.perform call).1 (replies ++ [(session.perform call).2]) := by
  have hflow : (session.perform call).1.traversal.flow = session.traversal.flow :=
    congrArg Setup.flow (session.setup_perform call)
  refine ⟨onCourse_perform h.onCourse call, by rw [hflow, h.stages_eq], ?_⟩
  rcases perform_cases_of_onCourse h.onCourse call with
    ⟨⟨entries, hobserves, hwrites⟩, hnone⟩ | ⟨_, _, completion?, step, -, hreply, hstepped⟩
  · have hkinds : ∀ entry ∈ entries, entry.kind ≠ .submitStage := by
      intro entry hentry hkind
      exact hhands (hkind ▸ hwrites entry hentry)
    rw [hobserves.log_eq, lastMisconception_append_of_ne hkinds, h.misconception_eq]
    simp only [latestMisconception?, steps_snoc_of_step?_none hnone]
  · rw [hstepped.lastMisconception_eq h.misconception_eq, hreply,
      latestMisconception?_concat steps_snoc_stepped,
      hstepped.misconception?_eq h.onCourse h.stages_eq hnodup]

/-- As long as no submission is entered by hand, the journal tells the latest misconception. -/
theorem remembers_run (hnodup : (stages.map Stage.id).Nodup)
    (h : Remembers stages rules session [])
    (hhands : ∀ call ∈ calls, ¬ call.Writes .submitStage) :
    Remembers stages rules (session.run calls).1 (session.run calls).2 :=
  run_invariant_replies (P := Remembers stages rules)
    (fun call hcall _ _ hnow => hnow.perform hnodup (hhands call hcall)) h

/-! ## The record at the completion -/

/-- A record that tells what was done on a multi-stage question. It has the path that was taken as the
answer, and the time from the mount to the completion. On a pass it tells the first remediation on the
path, if there was one, and that the learner recovered; on a fail it tells the latest misconception,
provided that no submission was entered by hand. -/
structure Diagnosed (session : Session) (calls : List SessionCall) (result : SubmissionResult)
    (record : AnalyticsRecord) : Prop where
  path_ne_nil : result.completion.path ≠ []
  studentAnswer_eq : record.studentAnswer = .text ("->".intercalate result.completion.path)
  timeSpent_eq : ∃ mounted closing, (session.run calls).1.log.head? = some mounted
    ∧ mounted.kind = .mount ∧ Closes session calls result closing
    ∧ record.timeSpent = max 0 (closing.timestamp - mounted.timestamp)
  isRecovered_iff : record.isRecovered = true
    ↔ result.isCorrect = true ∧ ∃ id ∈ result.completion.path, session.document.IsRepair id
  passed : result.isCorrect = true → record.diagnosticTag
    = (result.completion.path.find? fun id => session.document.IsRepair id).map
      fun id => "REPAIRED_VIA_" ++ id
  failed : result.isCorrect = false → (∀ call ∈ calls, ¬ call.Writes .submitStage) →
    record.diagnosticTag = some ((latestMisconception? session.document.authored
      (session.run calls).2).getD "FAILED_PATH")

namespace CompletedBy

variable (h : CompletedBy session calls first rest optionId submitted completion step)

include h

/-- The time is taken from the mount at the start to the submission that completed the question. -/
theorem timeSpent_eq {flow : Flow} (hbegins : Begins flow session) :
    ∃ mounted, (session.run calls).1.log.head? = some mounted ∧ mounted.kind = .mount
      ∧ timeSpent (session.run (first ++ [.submit optionId])).1.log
        = .ok (max 0 ((session.run first).1.clock.reading 2 - mounted.timestamp)) := by
  obtain ⟨later, hlater⟩ := session.log_prefix_run (first ++ [.submit optionId])
  obtain ⟨more, hmore⟩ := session.log_prefix_run calls
  have hterminal := h.terminalEvent_closed
  obtain ⟨clock, hlog⟩ := hbegins.exists_log_eq
  rw [hlog, List.cons_append] at hlater hmore
  rw [← hlater] at hterminal ⊢
  refine ⟨_, by rw [← hmore]; rfl, rfl, ?_⟩
  rw [timeSpent_mounted rfl hterminal]
  rfl

/-- What is called after the completion adds no submission, unless by hand. -/
theorem lastMisconception_eq (hhands : ∀ call ∈ calls, ¬ call.Writes .submitStage) :
    lastMisconception (session.run (first ++ [.submit optionId])).1.log
      = lastMisconception (session.run calls).1.log := by
  obtain ⟨entries, hobserves, hwrites⟩ := h.adds
  rw [hobserves.log_eq, lastMisconception_append_of_ne]
  intro entry hentry hkind
  obtain ⟨call, hcall, hwritten⟩ := hwrites entry hentry
  exact hhands call (by simp [h.calls_eq, hcall]) (hkind ▸ hwritten)

/-- The record of the journal at the completion tells what was done. -/
theorem diagnosed {flow : Flow} {record : AnalyticsRecord} {result : SubmissionResult}
    (hbegins : Begins flow session)
    (hnodup : (session.document.authored.map Stage.id).Nodup)
    (hstart : Remembers session.document.authored rules session [])
    (hresult : (session.run calls).1.result = some result)
    (hrecord : multiStage session.settings session.document
      (session.run (first ++ [.submit optionId])).1.log session.context = .ok record) :
    Diagnosed session calls result record := by
  obtain ⟨hcompletion, hcorrect⟩ := h.result_completion hresult
  obtain ⟨hanswer, hrecovered, hpassed, hfailed⟩ :=
    multiStage_told hnodup h.terminalEvent_closed h.path_ne_nil hrecord
  rw [← hcorrect] at hrecovered hpassed hfailed
  constructor
  · rw [hcompletion]
    exact h.path_ne_nil
  · rw [hcompletion]
    exact hanswer
  · obtain ⟨mounted, hhead, hkind, hspent⟩ := h.timeSpent_eq hbegins
    refine ⟨mounted, _, hhead, hkind, h.closes hresult, ?_⟩
    rw [(multiStage_measured hrecord).timeSpent_eq] at hspent
    exact Except.ok.inj hspent
  · rw [hcompletion]
    exact hrecovered
  · rw [hcompletion]
    exact hpassed
  · intro hfail hhands
    obtain ⟨found, hfound, htag⟩ := hfailed hfail
    -- the journal tells the latest misconception that the replies tell
    have hlatest := (remembers_run hnodup hstart hhands).misconception_eq
    rw [← h.lastMisconception_eq hhands, hfound, Except.ok.injEq] at hlatest
    rw [htag, hlatest, nameOr_of_ne_empty latestMisconception?_ne_empty]

end CompletedBy

/-! ## Whole runs -/

/-- Whenever a multi-stage question is completed, with the analytics that such questions have, the
record tells what was done, whatever was called. Unless the session is a preview, there is a record,
as long as no submission is entered by hand that the analytics cannot read. -/
theorem diagnosis_told {settings : Settings} {shared : Registry} {given : Option Registry}
    {options : SessionOptions} (hstart : start? settings shared given options question = .ok session)
    (hanalytics : session.manifest.analytics = Analytics.multiStage)
    (hdocument : ∀ single, session.document ≠ .multipleChoice single)
    (hpreview : options.isPreview = false) {result : SubmissionResult}
    (hresult : (session.run calls).1.result = some result) :
    (∀ record, result.analytics = some record → Diagnosed session calls result record)
    ∧ ((∀ call ∈ calls, call.IsLegible) → (session.run calls).1.log.length < 10 ^ 300 →
      ∃ record, result.analytics = some record) := by
  obtain ⟨-, hreviewed, hcompiled, -, hpreview'⟩ := started hstart
  obtain ⟨flow, hsound, hbegins⟩ := exists_sound_of_start? hstart
  rcases active_or_completedBy_of_start? hstart calls with
    hactive | ⟨first, rest, optionId, submitted, completion, step, hcompleted⟩
  · rw [hactive.2] at hresult
    cases hresult
  have hsame : result
      = session.resultOn (session.run (first ++ [.submit optionId])).1.log completion := by
    rw [hcompleted.result_eq, hcompleted.completed_eq] at hresult
    exact (Option.some.inj hresult).symm
  -- the flow is made of the stages of the document
  rw [hbegins.flow_eq] at hcompiled
  have hstages : flow.stages = session.document.authored.map (Stage.resolved session.document.rules) :=
    stages_of_flowFor hreviewed hcompiled
  have hnodup : (session.document.authored.map Stage.id).Nodup := by
    have hids := hsound.stageIds_nodup
    rwa [Flow.stageIds, hstages, ids_resolved] at hids
  constructor
  · intro record hrecord
    rw [hsame] at hrecord
    have hok := analytics_of_resultOn hrecord
    rw [hanalytics] at hok
    exact hcompleted.diagnosed hbegins hnodup (remembers_begin hsound hbegins hstages) hresult hok
  · intro hlegible hlength
    obtain ⟨record, hrecord⟩ :=
      hcompleted.exists_multiStageRecord hdocument (readable_begin hbegins) hlegible hlength
    rw [← hanalytics] at hrecord
    refine ⟨record, ?_⟩
    rw [hsame, resultOn_of_ok (hpreview'.trans hpreview) hrecord]

end Session

namespace Detour

/-- A question with a stage of remediation, as authored. -/
def rawClinic : Json :=
  .object [("flow", .object [("entry_stage_id", .text "ASK")]), ("stages", .array [
    rawStage "ASK" [rawOption "a" [("is_correct", .bool true)],
      rawOption "b" [("diagnostic", .text "SIGN"),
        ("next", .object [("type", .text "branch"), ("target", .text "R_ASK")])]] [],
    rawStage "R_ASK" [rawOption "a" [("is_correct", .bool true),
        ("next", .object [("type", .text "goto_stage"), ("target", .text "ASK")])],
      rawOption "b" [("next", .object [("type", .text "exit")])]] []])]

/-- The question with remediation, started on the built-in types. -/
def startedClinic : Except StartFailure Session :=
  Session.start? .standard (Registry.shared .standard).1 none options
    (typed "mcq-branching" rawClinic)

/-- A visit that passes after the remediation. -/
def healed : List SessionCall := [.submit "b", .advance 7, .submit "a", .submit "a"]

/-- A visit that fails in the remediation. -/
def lapsed : List SessionCall := [.submit "b", .submit "b"]

/-- The first of these visits is recorded as a recovery, and the second one is put down to the only
misconception, although another submission came after it. -/
theorem clinic_diagnosed : ∃ session passed failed, startedClinic = .ok session
    ∧ (session.run healed).1.result.bind SubmissionResult.analytics = some passed
    ∧ passed.studentAnswer = .text "ASK->R_ASK->ASK" ∧ passed.isRecovered = true
    ∧ passed.diagnosticTag = some "REPAIRED_VIA_R_ASK"
    ∧ (session.run lapsed).1.result.bind SubmissionResult.analytics = some failed
    ∧ failed.isRecovered = false ∧ failed.diagnosticTag = some "SIGN" := by
  have hnow : startedClinic.toOption.map (fun session => (session.document.kind,
      (session.run healed).1.result.map fun result => (result.isCorrect, result.completion.path),
      decide ((session.run healed).1.log.length < 10 ^ 300)))
      = some (.branching, some (true, ["ASK", "R_ASK", "ASK"]), true) := by
    decide +kernel
  obtain ⟨session, hstart, hfields⟩ := except_toOption_map_eq_some.mp hnow
  have hnow' : startedClinic.toOption.map (fun session =>
      (["ASK", "R_ASK", "ASK"].find? fun id => session.document.IsRepair id,
        (session.run lapsed).1.result.map SubmissionResult.isCorrect,
        latestMisconception? session.document.authored (session.run lapsed).2,
        decide ((session.run lapsed).1.log.length < 10 ^ 300)))
      = some (some "R_ASK", some false, some "SIGN", true) := by
    decide +kernel
  rw [hstart] at hnow'
  have hfields' := Option.some.inj hnow'
  simp only [Prod.mk.injEq, decide_eq_true_eq] at hfields hfields'
  obtain ⟨hkind, hhealed, hlength⟩ := hfields
  obtain ⟨hrepair, hlapsed, hlatest, hlength'⟩ := hfields'
  obtain ⟨result, hresult, hpath⟩ := Option.map_eq_some_iff.mp hhealed
  obtain ⟨result', hresult', hfail⟩ := Option.map_eq_some_iff.mp hlapsed
  obtain ⟨hpass, hpath⟩ := Prod.mk.inj hpath
  have hbuiltin : session.manifest ∈ Manifest.builtin := Session.manifest_mem_builtin hstart
  have hother : ∀ single, session.document ≠ .multipleChoice single := by
    intro single heq
    rw [heq] at hkind
    cases hkind
  have hanalytics : session.manifest.analytics = Analytics.multiStage := by
    rcases Session.analytics_of_mem_builtin hbuiltin (Session.started hstart).2.1 with
      ⟨single, heq, -⟩ | ⟨-, hanalytics⟩
    · exact absurd heq (hother single)
    · exact hanalytics
  obtain ⟨htold, hexists⟩ := Session.diagnosis_told hstart hanalytics hother rfl hresult
  obtain ⟨passed, hpassed⟩ := hexists (by simp [healed, SessionCall.IsLegible]) hlength
  obtain ⟨htold', hexists'⟩ := Session.diagnosis_told hstart hanalytics hother rfl hresult'
  obtain ⟨failed, hfailed⟩ := hexists' (by simp [lapsed, SessionCall.IsLegible]) hlength'
  have hdone := htold passed hpassed
  have hdone' := htold' failed hfailed
  refine ⟨session, passed, failed, hstart, by rw [hresult]; exact hpassed, ?_, ?_, ?_,
    by rw [hresult']; exact hfailed, ?_, ?_⟩
  · rw [hdone.studentAnswer_eq, hpath]
    rfl
  · apply hdone.isRecovered_iff.mpr
    refine ⟨hpass, "R_ASK", by rw [hpath]; decide, ?_⟩
    simpa using List.find?_some hrepair
  · rw [hdone.passed hpass, hpath, hrepair]
    rfl
  · rw [← Bool.not_eq_true, hdone'.isRecovered_iff, hfail]
    exact fun hboth => Bool.false_ne_true hboth.1
  · rw [hdone'.failed hfail (by simp [lapsed, SessionCall.Writes]), hlatest]
    rfl

end Detour

end AdaptiveQuiz
