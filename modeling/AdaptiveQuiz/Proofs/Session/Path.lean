import AdaptiveQuiz.Proofs.Analytics.Path
import AdaptiveQuiz.Proofs.Session.Completion

/-!
# The path of a completed session

A session tells its path twice: the entry that closes the journal has the stages that were left, and
every transition in the journal has the stage that it was made on. Analytics fall back on the
transitions where the closing entry has no path. The two agree as long as no attempt was repeated on a
stage: a loop is noted as a transition, but it leaves no stage, so with every retry the fallback has
one stage more than the recorded path.

## Main definitions

* `SessionReply.triedStages`, `SessionReply.leftStages`: the stages of all steps, and those of the steps
  that left their stage
* `Session.Tracked`: a session whose journal and history tell of the steps

## Main statements

* `Session.Tracked.perform`, `Session.tracked_run`
* `Session.path_told`
* `Detour.retry_counted`: a retry by which the fallback goes beyond the recorded path
-/

namespace AdaptiveQuiz

open Analytics SessionReply

/-- The action of a step leaves the stage that it was made on. -/
def StepResult.leavesStage (step : StepResult) : Bool := step.action != .loop

namespace SessionReply

/-- The stages on which submissions were accepted, in order. -/
def triedStages (replies : List SessionReply) : List String := (steps replies).map StepResult.stageId

/-- The stages that were left, in order. -/
def leftStages (replies : List SessionReply) : List String :=
  ((steps replies).filter StepResult.leavesStage).map StepResult.stageId

variable {replies more : List SessionReply} {step : StepResult}

theorem triedStages_concat (h : steps more = steps replies ++ [step]) :
    triedStages more = triedStages replies ++ [step.stageId] := by
  rw [triedStages, h, List.map_append, List.map_singleton, triedStages]

theorem leftStages_concat (h : steps more = steps replies ++ [step]) :
    leftStages more = leftStages replies ++ if step.leavesStage then [step.stageId] else [] := by
  rw [leftStages, h, List.filter_append, List.map_append, leftStages, List.filter_singleton]
  cases step.leavesStage <;> rfl

/-- Every stage that was tried was left if and only if no step was a loop. -/
theorem leftStages_eq_triedStages :
    leftStages replies = triedStages replies ↔ ∀ step ∈ steps replies, step.action ≠ .loop := by
  constructor
  · intro h
    have hlength := congrArg List.length h
    rw [leftStages, triedStages, List.length_map, List.length_map,
      List.length_filter_eq_length_iff] at hlength
    intro step hstep hloop
    have hleaves := hlength step hstep
    rw [StepResult.leavesStage, hloop] at hleaves
    cases hleaves
  · intro h
    rw [leftStages, triedStages, List.filter_eq_self.mpr]
    intro step hstep
    exact bne_iff_ne.mpr (h step hstep)

end SessionReply

namespace Session

variable {session before after : Session} {optionId : String} {submitted : Submitted}
  {completion? : Option Completion} {step : StepResult} {calls first rest : List SessionCall}

/-! ## What a step leaves -/

/-- A step that does not complete the question adds its stage to the history, unless it is a loop. -/
theorem Stepped.history_eq (h : Stepped before optionId submitted none after step) :
    after.traversal.history
      = before.traversal.history ++ if step.leavesStage then [step.stageId] else [] := by
  have hcarried := h.answers.step
  rw [← h.action_eq] at hcarried
  rw [h.stageId_eq]
  generalize hafter : after.traversal = moved at hcarried
  generalize hanswer : (Except.ok none : Except TraversalError (Option Completion)) = answer
    at hcarried
  generalize hproposal : Proposal.action step.action = proposal at hcarried
  cases hcarried with
  | stay =>
    rw [StepResult.leavesStage, Proposal.action.inj hproposal]
    exact (List.append_nil _).symm
  | move htarget hstage =>
    cases hproposal
    have hleaves : step.leavesStage = true := by
      rw [StepResult.leavesStage, bne_iff_ne]
      intro hloop
      rw [hloop] at htarget
      cases htarget
    rw [hleaves]
    rfl
  | lost htarget hstage => cases hanswer
  | leave outcome => cases hanswer
  | unsupported content description => cases hanswer

/-- The transition of a step tells the stage of the step. -/
theorem Stepped.origins_eq {texts : List Json} (h : Stepped before optionId submitted completion?
    after step) (horigins : origins before.log = .ok texts) :
    origins after.log = .ok (texts ++ [.text step.stageId]) := by
  -- of the entries of a submission, the first and the last are of other kinds
  have hfirst : origins (before.log ++ [.ofEvent (before.clock.reading 0) submitted.event])
      = .ok texts := by
    rw [origins_append_of_ne, horigins]
    intro entry hentry
    rw [List.mem_singleton.mp hentry, (Traversal.submit_eq_ok.mp h.submit_eq).2.2.2]
    exact nofun
  have hlast : ∀ entry ∈ closing (before.clock.reading 2) (.ok completion?),
      entry.kind ≠ .transition := by
    intro entry hentry
    cases completion? with
    | none => cases hentry
    | some completion =>
      rw [List.mem_singleton.mp hentry]
      exact nofun
  have hlog : after.log = before.log ++ [.ofEvent (before.clock.reading 0) submitted.event]
      ++ [.ofEvent (before.clock.reading 1)
        (before.traversal.transition (.action (before.taken submitted)))]
      ++ closing (before.clock.reading 2) (.ok completion?) := by
    rw [h.answers.log_eq]
    simp
  rw [hlog, origins_append_of_ne hlast, h.stageId_eq]
  exact origins_snoc hfirst rfl rfl rfl

/-! ## Whole runs -/

/-- A session on course, whose transitions tell the stages that were tried. Until it is completed, its
history tells those that were left. -/
structure Tracked (session : Session) (replies : List SessionReply) : Prop where
  onCourse : session.traversal.OnCourse
  origins_eq : origins session.log = .ok ((triedStages replies).map .text)
  history_eq : session.traversal.completion = none → session.traversal.history = leftStages replies

theorem tracked_begin {flow : Flow} (hsound : flow.Sound) (h : Begins flow session) :
    Tracked session [] where
  onCourse := Traversal.onCourse_of_start? hsound h.traversal_eq
  origins_eq := by
    obtain ⟨clock, hlog⟩ := h.exists_log_eq
    rw [hlog]
    rfl
  history_eq _ := h.history_eq

theorem Tracked.perform {replies : List SessionReply} {call : SessionCall}
    (h : Tracked session replies) (hhands : ¬ call.Writes .transition) :
    Tracked (session.perform call).1 (replies ++ [(session.perform call).2]) := by
  refine ⟨onCourse_perform h.onCourse call, ?_, fun hopen => ?_⟩
  all_goals rcases perform_cases_of_onCourse h.onCourse call with
    ⟨⟨entries, hobserves, hwrites⟩, hnone⟩ | ⟨_, _, completion?, step, -, hreply, hstepped⟩
  · have hkinds : ∀ entry ∈ entries, entry.kind ≠ .transition := by
      intro entry hentry hkind
      exact hhands (hkind ▸ hwrites entry hentry)
    rw [hobserves.log_eq, origins_append_of_ne hkinds, h.origins_eq]
    simp only [triedStages, steps_snoc_of_step?_none hnone]
  · rw [hstepped.origins_eq h.origins_eq, hreply, triedStages_concat steps_snoc_stepped,
      List.map_append]
    rfl
  · rw [hobserves.traversal_eq] at hopen ⊢
    rw [h.history_eq hopen]
    simp only [leftStages, steps_snoc_of_step?_none hnone]
  · -- a step that completes the question does not leave it open
    cases completion? with
    | some completion =>
      rw [hstepped.answers.step.completion_eq] at hopen
      cases hopen
    | none =>
      rw [hstepped.history_eq, h.history_eq (Traversal.submit_eq_ok.mp hstepped.submit_eq).1, hreply,
        leftStages_concat steps_snoc_stepped]

theorem tracked_run (h : Tracked session [])
    (hhands : ∀ call ∈ calls, ¬ call.Writes .transition) :
    Tracked (session.run calls).1 (session.run calls).2 :=
  run_invariant_replies (P := Tracked)
    (fun call hcall _ _ htracked => htracked.perform (hhands call hcall)) h

/-! ## The two paths -/

/-- The entry that closes the question is the last one of its kind that was not made by hand. -/
theorem CompletedBy.terminalEvent_eq {completion : Completion}
    (h : CompletedBy session calls first rest optionId submitted completion step)
    (hhands : ∀ call ∈ rest, ¬ call.Writes .submit) :
    terminalEvent (session.run calls).1.log
      = .ok (.ofEvent ((session.run first).1.clock.reading 2) ⟨.submit, completion.toJson⟩) := by
  obtain ⟨entries, hobserves, hwrites⟩ := h.adds
  have hkinds : ∀ entry ∈ entries, entry.kind ≠ .submit := by
    intro entry hentry hkind
    obtain ⟨call, hcall, hwritten⟩ := hwrites entry hentry
    exact hhands call hcall (hkind ▸ hwritten)
  rw [hobserves.log_eq, terminalEvent_append_of_ne hkinds, h.log_eq]
  exact terminalEvent_concat rfl

/-- The path of the completion has the stages that were left, the last one included. -/
theorem CompletedBy.path_eq {completion : Completion}
    (h : CompletedBy session calls first rest optionId submitted completion step)
    (htracked : Tracked (session.run first).1 (session.run first).2) :
    completion.path = leftStages (session.run calls).2 := by
  obtain ⟨outcome, haction, rfl⟩ := h.exits
  have hleaves : step.leavesStage = true := by
    rw [StepResult.leavesStage, haction]
    rfl
  rw [leftStages_concat h.steps_eq, hleaves, if_pos rfl, h.stepped.stageId_eq,
    ← htracked.history_eq h.active.1]
  rfl

/-- Of a completed session, on any document and however it was run, analytics read the path of the
stages that were left, and without the recorded path they put together that of all stages on which a
submission was accepted. These are the same if and only if no submission was answered by a loop, and
then the records of multi-stage questions are the same as well. -/
theorem path_told {settings : Settings} {shared : Registry} {given : Option Registry}
    {options : SessionOptions} {question : Json}
    (hstart : start? settings shared given options question = .ok session)
    (hhands : ∀ call ∈ calls, ¬ call.Writes .submit ∧ ¬ call.Writes .transition)
    (hcomplete : (session.run calls).1.isComplete = true) :
    let log := (session.run calls).1.log
    let replies := (session.run calls).2
    visitedPath log = .ok ((leftStages replies).map .text)
    ∧ visitedPath (log.map LogEntry.pathless) = .ok ((triedStages replies).map .text)
    ∧ (visitedPath (log.map LogEntry.pathless) = visitedPath log
      ↔ ∀ step ∈ steps replies, step.action ≠ .loop)
    ∧ ((∀ step ∈ steps replies, step.action ≠ .loop) → ∀ settings document context,
      multiStage settings document (log.map LogEntry.pathless) context
        = multiStage settings document log context) := by
  intro log replies
  obtain ⟨flow, hsound, hbegins⟩ := exists_sound_of_start? hstart
  have hbegin := tracked_begin hsound hbegins
  rcases active_or_completedBy_of_start? hstart calls with
    hactive | ⟨first, rest, optionId, submitted, completion, step, hcompleted⟩
  · rw [isComplete, hactive.2] at hcomplete
    cases hcomplete
  have hsplit := hcompleted.calls_eq
  have hbefore : Tracked (session.run first).1 (session.run first).2 :=
    tracked_run hbegin fun call hcall => (hhands call (by simp [hsplit, hcall])).2
  have hnow : Tracked (session.run calls).1 replies :=
    tracked_run hbegin fun call hcall => (hhands call hcall).2
  have hterminal := hcompleted.terminalEvent_eq fun call hcall =>
    (hhands call (by simp [hsplit, hcall])).1
  have hpath : completion.path = leftStages replies := hcompleted.path_eq hbefore
  have hrecorded : visitedPath log = .ok ((leftStages replies).map .text) := by
    rw [← hpath]
    exact visitedPath_recorded hterminal hcompleted.path_ne_nil
  have hfallback : visitedPath (log.map LogEntry.pathless)
      = .ok ((triedStages replies).map .text) :=
    (visitedPath_pathless hterminal rfl).trans hnow.origins_eq
  have hagree : visitedPath (log.map LogEntry.pathless) = visitedPath log
      ↔ ∀ step ∈ steps replies, step.action ≠ .loop := by
    have htext : Function.Injective Json.text := fun _ _ heq => Json.text.inj heq
    rw [hrecorded, hfallback, Except.ok.injEq, htext.list_map.eq_iff, eq_comm,
      leftStages_eq_triedStages]
  exact ⟨hrecorded, hfallback, hagree, fun hloopless settings document context =>
    multiStage_pathless (hagree.mpr hloopless) settings document context⟩

end Session

namespace Detour

/-- A visit that leads on to the last stage and passes, without a retry. -/
def straight : List SessionCall := [.submit "a", .advance 5, .submit "a"]

/-- Without a retry the two paths agree. -/
theorem straight_told : ∃ session, started = .ok session
    ∧ visitedPath (session.run straight).1.log = .ok [.text "ASK", .text "LAST"]
    ∧ visitedPath ((session.run straight).1.log.map LogEntry.pathless)
      = visitedPath (session.run straight).1.log := by
  have hnow : started.toOption.map (fun session => ((session.run straight).1.isComplete,
      (steps (session.run straight).2).map fun step => (step.stageId, step.action)))
      = some (true, [("ASK", .goto "LAST"), ("LAST", .exit (some .pass))]) := by
    decide +kernel
  obtain ⟨session, hstart, hfields⟩ := except_toOption_map_eq_some.mp hnow
  simp only [Prod.mk.injEq] at hfields
  obtain ⟨hcomplete, hsteps⟩ := hfields
  have hhands : ∀ call ∈ straight, ¬ call.Writes .submit ∧ ¬ call.Writes .transition := by
    simp [straight, SessionCall.Writes]
  obtain ⟨hrecorded, -, hagree, -⟩ := Session.path_told hstart hhands hcomplete
  have hloopless : ∀ step ∈ steps (session.run straight).2, step.action ≠ .loop := by
    intro step hstep hloop
    have hmem := List.mem_map_of_mem (f := fun step => (step.stageId, step.action)) hstep
    rw [hsteps, hloop] at hmem
    simp at hmem
  have hstages : leftStages (session.run straight).2 = ["ASK", "LAST"] := by
    rw [leftStages_eq_triedStages.mpr hloopless]
    have hnames := congrArg (List.map Prod.fst) hsteps
    rwa [List.map_map] at hnames
  rw [hstages] at hrecorded
  exact ⟨session, hstart, hrecorded, hagree.mpr hloopless⟩

/-- A visit that passes after a retry. -/
def retried : List SessionCall := [.submit "c", .submit "a", .submit "a"]

/-- After a retry, the fallback has a stage more than the recorded path. -/
theorem retry_counted : ¬ ∀ settings shared given options question session calls,
    Session.start? settings shared given options question = .ok session →
    (∀ call ∈ calls, ¬ call.Writes .submit ∧ ¬ call.Writes .transition) →
    (session.run calls).1.isComplete = true →
    visitedPath ((session.run calls).1.log.map LogEntry.pathless)
      = visitedPath (session.run calls).1.log := by
  intro hall
  have hnow : started.toOption.map (fun session => ((session.run retried).1.isComplete,
      visitedPath ((session.run retried).1.log.map LogEntry.pathless),
      visitedPath (session.run retried).1.log))
      = some (true, .ok [.text "ASK", .text "ASK", .text "LAST"], .ok [.text "ASK", .text "LAST"]) := by
    decide +kernel
  obtain ⟨session, hstart, hfields⟩ := except_toOption_map_eq_some.mp hnow
  simp only [Prod.mk.injEq] at hfields
  obtain ⟨hcomplete, hfallback, hrecorded⟩ := hfields
  have hhands : ∀ call ∈ retried, ¬ call.Writes .submit ∧ ¬ call.Writes .transition := by
    simp [retried, SessionCall.Writes]
  have hsame := hall _ _ _ _ _ session retried hstart hhands hcomplete
  rw [hfallback, hrecorded] at hsame
  simp at hsame

end Detour

end AdaptiveQuiz
