import AdaptiveQuiz.Proofs.Session.Dependency
import AdaptiveQuiz.Proofs.Session.Replies

/-!
# The attempts gate

An edge to remediation is held back until there were enough incorrect submissions on the stage that
it leaves. They are counted for every stage on its own and never forgotten, so whoever was told of all
submissions that were accepted can tell the count, and from it what the gate does next. Where all
edges come from rules, a stage with remediation has as many incorrect submissions as the threshold
says at most: the last of them leaves the stage, and there is no way back to it.

## Main definitions

* `Session.Tallied`: the counts of a session are those of the steps that were told
* `Session.Gated`: a step whose action went through the gate
* `Session.Limited`: a stage with remediation on which there is an incorrect submission left, or
  which was left for good

## Main statements

* `Session.tallied_run`: a run keeps the tally
* `Session.limited_run`: a run keeps the limit
* `Session.attempts_gate`
-/

namespace AdaptiveQuiz

open SessionReply

namespace Session

variable {session before after : Session} {replies : List SessionReply} {optionId : String}
  {submitted : Submitted} {completion? : Option Completion} {step : StepResult}

/-! ## The tally -/

/-- The counts of a session on course are those of the steps that were told. -/
structure Tallied (session : Session) (replies : List SessionReply) : Prop where
  onCourse : session.traversal.OnCourse
  attempts_eq : ∀ stageId, session.attempts stageId = missesOn stageId replies

theorem tallied_begin {flow : Flow} (hsound : flow.Sound) (h : Begins flow session) :
    Tallied session [] where
  onCourse := Traversal.onCourse_of_start? hsound h.traversal_eq
  attempts_eq := fun stageId => by
    rw [attempts, h.misses_eq]
    rfl

theorem tallied_perform (h : Tallied session replies) (call : SessionCall) :
    Tallied (session.perform call).1 (replies ++ [(session.perform call).2]) := by
  refine ⟨onCourse_perform h.onCourse call, fun stageId => ?_⟩
  rcases perform_cases_of_onCourse h.onCourse call with
    ⟨⟨entries, hobserves, -⟩, hnone⟩ | ⟨optionId, submitted, completion?, step, -, hreply, hstepped⟩
  · rw [missesOn_snoc_of_step?_none hnone, attempts, hobserves.misses_eq]
    exact h.attempts_eq stageId
  · rw [hreply, missesOn_snoc_stepped, hstepped.attempts_eq, h.attempts_eq]

theorem tallied_run (h : Tallied session []) (calls : List SessionCall) :
    Tallied (session.run calls).1 (session.run calls).2 :=
  run_invariant_replies (P := Tallied) (fun call _ _ _ htallied => tallied_perform htallied call) h

/-! ## The gate -/

/-- The gate looks at the count that is left, so the submission at hand is counted in. -/
theorem Answers.taken_eq {answer : Except TraversalError (Option Completion)}
    (h : Answers before submitted answer after) : before.taken submitted
      = if submitted.option.nextSource = some .attemptsExceeded
          ∧ (after.attempts before.currentStage.id : Int) < before.threshold then .loop
        else submitted.action := by
  have hmisses : (before.counted submitted).misses = after.misses :=
    misses_counted.trans h.misses_eq.symm
  have hsetup : (before.counted submitted).setup = before.setup := by simp [counted]
  have hthreshold : (before.counted submitted).threshold = before.threshold :=
    congrArg Setup.threshold hsetup
  rw [taken, gate, attempts, hmisses, hthreshold, currentStage, traversal_counted]
  rfl

/-- A step whose action went through the gate: the submission of an option of the stage shown is
counted, if it is incorrect, then the action of the option is let through or held back, and what
comes of the gate is carried out and told. -/
structure Gated (threshold : Int) (before : Session) (replies : List SessionReply)
    (optionId : String) (option : StageOption) (action : Action) (after : Session)
    (step : StepResult) : Prop where
  current_mem : before.currentStage ∈ before.traversal.flow.stages
  option_eq : before.currentStage.option? optionId = some option
  next_eq : option.next = some action
  stageId_eq : step.stageId = before.currentStage.id
  optionId_eq : step.optionId = optionId
  isCorrect_eq : step.isCorrect = before.currentStage.isCorrect option
  attempts_eq : step.attempts = missesOn step.stageId (replies ++ [.stepped step])
  action_eq : step.action
    = if option.nextSource = some .attemptsExceeded ∧ (step.attempts : Int) < threshold then .loop
      else action
  traversal_eq : after.traversal = (before.traversal.carryOut (.action step.action)).1
  currentStageId_eq : step.currentStageId = after.currentStage.id

theorem Tallied.gated (h : Tallied before replies)
    (hstepped : Stepped before optionId submitted completion? after step) :
    Gated before.threshold before replies optionId submitted.option submitted.action after step := by
  obtain ⟨-, hoption, hnext, -⟩ := Traversal.submit_eq_ok.mp hstepped.submit_eq
  refine
    { current_mem := h.onCourse.current_mem
      option_eq := hoption
      next_eq := hnext
      stageId_eq := hstepped.stageId_eq
      optionId_eq := hstepped.optionId_eq
      isCorrect_eq := hstepped.isCorrect_eq
      attempts_eq := ?_
      action_eq := ?_
      traversal_eq := by rw [hstepped.carryOut_eq]
      currentStageId_eq := hstepped.currentStageId_eq }
  · -- the count that is left is one of all steps, this one included
    rw [hstepped.attempts_step, hstepped.attempts_eq, h.attempts_eq, missesOn_snoc_stepped]
  · rw [hstepped.action_eq, hstepped.answers.taken_eq, hstepped.attempts_step, hstepped.stageId_eq]

/-! ## Stages with remediation -/

/-- A stage with remediation of which the limit is not reached yet, or which was left when it was
reached. -/
structure Limited (flow : Flow) (threshold : Int) (parent : String) (session : Session) : Prop where
  threshold_eq : session.threshold = threshold
  follows : Follows flow session
  attempts_cases : (session.attempts parent : Int) < threshold
    ∨ (session.attempts parent : Int) = threshold ∧ parent ∈ session.traversal.history

variable {document : DeclarativeDocument} {flow : Flow} {threshold : Int} {parent child : String}

namespace Limited

theorem begin (h : Begins flow session) (hthreshold : session.threshold = threshold)
    (hpos : 1 ≤ threshold) : Limited flow threshold parent session where
  threshold_eq := hthreshold
  follows := follows_begin h
  attempts_cases := by
    rw [attempts, h.misses_eq]
    exact Or.inl hpos

theorem onCourse (h : Limited flow threshold parent session) (hsound : flow.Sound) :
    session.traversal.OnCourse :=
  h.follows.traversal.onCourse hsound

theorem attempts_le (h : Limited flow threshold parent session) :
    (session.attempts parent : Int) ≤ threshold := by
  rcases h.attempts_cases with hlt | ⟨heq, -⟩
  · exact Int.le_of_lt hlt
  · exact Int.le_of_eq heq

/-- A stage that was left is not shown again. -/
theorem attempts_lt (h : Limited flow threshold parent session)
    (htree : IsRootedTree flow.stageIds flow.Goto flow.entry)
    (hid : session.currentStage.id = parent) : (session.attempts parent : Int) < threshold := by
  rcases h.attempts_cases with hlt | ⟨-, hleft⟩
  · exact hlt
  · -- it would be on the path twice
    have hnodup : session.traversal.path.Nodup :=
      htree.nodup_of_isChain h.follows.traversal.isChain_path
    have hne := (List.nodup_append.mp hnodup).2.2 parent hleft _ (List.mem_singleton_self _)
    exact absurd hid.symm hne

end Limited

section Remediation

variable (h : WellFormedStages document.authored) (hpure : document.IsPure)
  (hflow : document.compile.flow = some flow)
  (hgoto : flow.GotoBy Trigger.attemptsExceeded.source parent child)

include h hpure hflow hgoto

/-- An incorrect submission on a stage with remediation stays, or goes to the remediation. -/
theorem Stepped.remediated (hstepped : Stepped before optionId submitted completion? after step)
    (hfollows : Follows flow before) (hmiss : step.isMiss parent = true) :
    (after.attempts parent : Int) < before.threshold ∧ after.traversal = before.traversal
      ∨ before.threshold ≤ after.attempts parent ∧ after.currentStage.id = child
        ∧ after.traversal.history = before.traversal.history ++ [parent] := by
  obtain ⟨-, hoption, hnext, -⟩ := Traversal.submit_eq_ok.mp hstepped.submit_eq
  have hmem := (Traversal.mem_and_id_of_option? hoption).1
  obtain ⟨hid, hincorrect⟩ : before.currentStage.id = parent
      ∧ before.currentStage.isCorrect submitted.option = false := by
    simpa [StepResult.isMiss, hstepped.stageId_eq, hstepped.isCorrect_eq] using hmiss
  -- the rule of the remediation has claimed all incorrect options, so this one leads there
  have htrigger : Trigger.ofCorrectness (before.currentStage.isCorrect submitted.option)
      = .attemptsExceeded := by
    rw [hincorrect]
    rfl
  obtain ⟨htarget, hsource⟩ := DeclarativeDocument.option_of_gotoBy h hpure hflow hgoto
    hfollows.traversal.current_mem hid hmem htrigger
  rw [hnext, Option.some.injEq] at htarget
  have haction := hstepped.action_eq.trans hstepped.answers.taken_eq
  rw [hid, htarget] at haction
  have hcarry := hstepped.carryOut_eq
  by_cases hfew : (after.attempts parent : Int) < before.threshold
  · -- held back, the learner stays
    rw [haction, if_pos ⟨hsource, hfew⟩] at hcarry
    exact Or.inl ⟨hfew, (congrArg Prod.fst hcarry).symm⟩
  · rw [haction, if_neg fun hboth => hfew hboth.2] at hcarry
    obtain ⟨hchild, hhistory⟩ := Traversal.moved_of_moveTo hcarry
    refine Or.inr ⟨Int.not_lt.mp hfew, hchild, ?_⟩
    rw [hhistory, ← hid]
    rfl

/-- The incorrect submission that reaches the limit leaves the stage, and those before it stay. -/
theorem Limited.missed (hlimited : Limited flow threshold parent before)
    (hstepped : Stepped before optionId submitted completion? after step)
    (hmiss : step.isMiss parent = true) :
    (after.attempts parent : Int) < threshold ∧ after.traversal = before.traversal
      ∨ (after.attempts parent : Int) = threshold ∧ after.currentStage.id = child
        ∧ after.traversal.history = before.traversal.history ++ [parent] := by
  have hid : before.currentStage.id = parent := by
    rw [StepResult.isMiss, Bool.and_eq_true, beq_iff_eq, hstepped.stageId_eq] at hmiss
    exact hmiss.1
  -- the count was below the limit and grows by one, so it does not pass the limit
  have hbefore := hlimited.attempts_lt (DeclarativeDocument.isRootedTree h hpure hflow) hid
  have hafter := hstepped.attempts_eq parent
  rw [if_pos hmiss] at hafter
  rcases hstepped.remediated h hpure hflow hgoto hlimited.follows hmiss with
    ⟨hfew, hsame⟩ | ⟨hmany, hleft⟩
  · rw [hlimited.threshold_eq] at hfew
    exact Or.inl ⟨hfew, hsame⟩
  · rw [hlimited.threshold_eq] at hmany
    exact Or.inr ⟨by omega, hleft⟩

theorem Limited.perform (hlimited : Limited flow threshold parent session) (call : SessionCall) :
    Limited flow threshold parent (session.perform call).1 := by
  have hcourse := hlimited.onCourse (DeclarativeDocument.sound_of_compile h hflow)
  refine ⟨?_, follows_perform h hpure hflow hlimited.follows call, ?_⟩
  · exact (congrArg Setup.threshold (session.setup_perform call)).trans hlimited.threshold_eq
  · rcases perform_cases_of_onCourse hcourse call with
      ⟨⟨entries, hobserves, -⟩, -⟩ | ⟨optionId, submitted, completion?, step, -, -, hstepped⟩
    · rw [attempts, hobserves.misses_eq, hobserves.traversal_eq]
      exact hlimited.attempts_cases
    · by_cases hmiss : step.isMiss parent = true
      · rcases hlimited.missed h hpure hflow hgoto hstepped hmiss with
          ⟨hlt, -⟩ | ⟨heq, -, hhistory⟩
        · exact Or.inl hlt
        · refine Or.inr ⟨heq, ?_⟩
          rw [hhistory]
          exact List.mem_append_right _ (List.mem_singleton_self _)
      · -- another stage is shown, or nothing is counted
        rw [hstepped.attempts_eq, if_neg hmiss]
        exact hlimited.attempts_cases.imp_right
          (And.imp_right hstepped.answers.step.mem_history)

theorem Limited.told (hlimited : Limited flow threshold parent session)
    (hreply : (session.perform (.submit optionId)).2 = .stepped step) (hid : step.stageId = parent)
    (hincorrect : step.isCorrect = false) :
    (step.attempts : Int) < threshold ∧ step.currentStageId = parent
      ∨ (step.attempts : Int) = threshold ∧ step.currentStageId = child := by
  have hcourse := hlimited.onCourse (DeclarativeDocument.sound_of_compile h hflow)
  obtain ⟨_, submitted, completion?, hcall, hstepped⟩ := stepped_of_reply hcourse hreply
  cases hcall
  have hmiss : step.isMiss parent = true := by simp [StepResult.isMiss, hid, hincorrect]
  rw [hstepped.attempts_step, hid, hstepped.currentStageId_eq]
  rcases hlimited.missed h hpure hflow hgoto hstepped hmiss with ⟨hlt, hsame⟩ | ⟨heq, hchild, -⟩
  · refine Or.inl ⟨hlt, ?_⟩
    rw [currentStage, hsame, ← hid]
    exact hstepped.stageId_eq.symm
  · exact Or.inr ⟨heq, hchild⟩

theorem limited_run (hlimited : Limited flow threshold parent session) (calls : List SessionCall) :
    Limited flow threshold parent (session.run calls).1 :=
  run_invariant (fun call _ _ hsession => hsession.perform h hpure hflow hgoto call) hlimited

end Remediation

/-! ## Whole runs -/

/-- At any time after its start, a session has counted for every stage the incorrect submissions on
it that were accepted so far. A submission that is accepted then has the action that the option has
in the compiled flow, unless remediation is held back because the submissions counted, this one
included, are fewer than the threshold. Of a document without authored actions, a stage with
remediation has as many incorrect submissions as the threshold at most: all before the last stay on
the stage, and the last one leads to the remediation. -/
theorem attempts_gate {settings : Settings} {shared : Registry} {given : Option Registry}
    {options : SessionOptions} {question : Json}
    (hstart : start? settings shared given options question = .ok session)
    (calls : List SessionCall) :
    let threshold : Int := options.attemptsBeforeRepair.getD settings.attemptsBeforeRepair
    let now := (session.run calls).1
    let replies := (session.run calls).2
    flowFor session.manifest session.document = .ok now.traversal.flow
    ∧ (∀ stageId, now.attempts stageId = missesOn stageId replies)
    ∧ (∀ optionId step, (now.perform (.submit optionId)).2 = .stepped step →
      ∃ option action, Gated threshold now replies optionId option action
        (now.perform (.submit optionId)).1 step)
    ∧ ∀ document, session.document = .declarative document → document.IsPure → 1 ≤ threshold →
      ∀ rule ∈ document.stages, ∀ stageId, rule.unlock = some (.after .attemptsExceeded stageId) →
        (now.attempts stageId : Int) ≤ threshold
        ∧ ∀ optionId step, (now.perform (.submit optionId)).2 = .stepped step →
          step.stageId = stageId → step.isCorrect = false →
          (step.attempts : Int) < threshold ∧ step.currentStageId = stageId
            ∨ (step.attempts : Int) = threshold ∧ step.currentStageId = rule.id := by
  intro threshold now replies
  obtain ⟨-, hdocument, hflow, hthreshold, -⟩ := started hstart
  obtain ⟨flow, hsound, hbegins⟩ := exists_sound_of_start? hstart
  have hsetup : now.setup = session.setup := session.setup_run calls
  have hthresholdNow : now.threshold = threshold :=
    (congrArg Setup.threshold hsetup).trans hthreshold
  have htallied : Tallied now replies := tallied_run (tallied_begin hsound hbegins) calls
  refine ⟨?_, htallied.attempts_eq, ?_, ?_⟩
  · have hsame : now.traversal.flow = session.traversal.flow := congrArg Setup.flow hsetup
    rw [hsame]
    exact hflow
  · intro optionId step hreply
    obtain ⟨_, submitted, _, hcall, hstepped⟩ := stepped_of_reply htallied.onCourse hreply
    cases hcall
    rw [← hthresholdNow]
    exact ⟨_, _, htallied.gated hstepped⟩
  · intro document heq hpure hpos rule hrule stageId hunlock
    rw [heq] at hdocument hflow
    rw [← hbegins.flow_eq] at hbegins
    have hstages := DeclarativeDocument.wellFormed_of_schema
      (Document.schema_of_review_declarative (documentFor_eq_ok.mp hdocument))
    have hcompiled := flowFor_declarative hflow
    -- the rule of the stage became an edge of the flow, along which the limit is kept
    have hgoto : session.traversal.flow.GotoBy Trigger.attemptsExceeded.source stageId rule.id :=
      (DeclarativeDocument.gotoBy_iff hstages hpure hcompiled).mpr ⟨rule, hrule, rfl, hunlock⟩
    have hlimited : Limited session.traversal.flow threshold stageId now :=
      limited_run hstages hpure hcompiled hgoto (Limited.begin hbegins hthreshold hpos) calls
    exact ⟨hlimited.attempts_le, fun optionId step =>
      hlimited.told hstages hpure hcompiled hgoto⟩

end Session

namespace Detour

/-- The question whose edges all come from rules, started on the built-in types. -/
def startedLadder : Except StartFailure Session :=
  Session.start? .standard (Registry.shared .standard).1 none options
    (typed "mcq-declarative" rawLadder)

/-- The second incorrect answer on `ASK` leads to its remediation, and there is no third. -/
theorem gate_opens : ∃ session step, startedLadder = .ok session
    ∧ ((session.run [.submit "b"]).1.perform (.submit "b")).2 = .stepped step
    ∧ step.attempts = SessionReply.missesOn step.stageId
      ((session.run [.submit "b"]).2 ++ [.stepped step])
    ∧ (step.attempts : Int) = 2 ∧ step.currentStageId = "TRY" := by
  have hnow : startedLadder.toOption.bind (fun session =>
      (((session.run [.submit "b"]).1.perform (.submit "b")).2.step?).map fun step =>
        (session.document, step.stageId, step.isCorrect, step.currentStageId))
      = some (.declarative ladder, "ASK", false, "TRY") := by decide +kernel
  have hpure : ladder.IsPure := by
    unfold DeclarativeDocument.IsPure
    decide
  obtain ⟨session, hstart, hreplied⟩ := except_toOption_bind_eq_some.mp hnow
  obtain ⟨step, hstep, hfields⟩ := Option.map_eq_some_iff.mp hreplied
  obtain ⟨hdocument, hid, hincorrect, hshown⟩ : _ ∧ _ ∧ _ ∧ _ := by
    simpa only [Prod.mk.injEq] using hfields
  have hreply := SessionReply.step?_eq_some.mp hstep
  obtain ⟨-, -, hgated, hlimit⟩ := Session.attempts_gate hstart [.submit "b"]
  obtain ⟨option, action, hstepped⟩ := hgated "b" step hreply
  obtain ⟨-, htold⟩ := hlimit ladder hdocument hpure (by decide)
    ⟨stage "TRY" [{ plain "a" with isCorrect := some true }, plain "b"] none,
      some (.after .attemptsExceeded "ASK")⟩ (by decide) "ASK" rfl
  rcases htold "b" step hreply hid hincorrect with ⟨-, hstays⟩ | ⟨hcount, -⟩
  · rw [hshown] at hstays
    exact absurd hstays (by decide)
  · exact ⟨session, step, hstart, hreply, hstepped.attempts_eq, hcount, hshown⟩

end Detour

end AdaptiveQuiz
