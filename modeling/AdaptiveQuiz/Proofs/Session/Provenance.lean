import AdaptiveQuiz.Proofs.Session.Gate

/-!
# Who the gate holds back

The gate does not look at the answer but at where the action of the option is from. Compilation marks
only incorrect options as leading to remediation. An author who writes an action may mark it himself,
though, and this mark is kept, also on an option that is correct. Such an option is held back like any
other edge to remediation; no other correct option is.

## Main definitions

* `Document.AuthorsRemediation`: the author gave an option an action and marked it as remediation

## Main statements

* `Session.correct_let_through`: which correct answers the gate lets through
* `Detour.correct_held_back`: it does not let all of them through
-/

namespace AdaptiveQuiz

/-! ## What is authored -/

namespace Document

/-- An option that the author gave an action and marked as leading to remediation. -/
def AuthorsRemediation (document : Document) (stageId optionId : String) : Prop :=
  ∃ stage ∈ document.authored, stage.id = stageId ∧ ∃ option ∈ stage.options,
    option.id = optionId ∧ option.next.isSome = true
      ∧ option.nextSource = some .attemptsExceeded

/-- The choices of a single choice question are not marked. -/
theorem not_authorsRemediation_multipleChoice (document : MultipleChoiceDocument)
    (stageId optionId : String) :
    ¬ (Document.multipleChoice document).AuthorsRemediation stageId optionId := by
  rintro ⟨stage, hstage, -, option, hoption, -, -, hsource⟩
  cases List.mem_singleton.mp hstage
  obtain ⟨choice, -, rfl⟩ := List.mem_map.mp hoption
  cases hsource

end Document

/-! ## Where the mark is from -/

/-- An option that leads to remediation is incorrect, or its author marked it. -/
theorem isCorrect_or_authored_of_resolution {declared : List DeclarativeStage} {parent : Stage}
    {option : StageOption} (h : (resolution declared parent option).2 = .attemptsExceeded) :
    parent.isCorrect option = false
      ∨ option.next.isSome = true ∧ option.nextSource = some .attemptsExceeded := by
  cases hnext : option.next with
  | some action =>
    rw [resolution_of_next hnext] at h
    refine Or.inr ⟨rfl, ?_⟩
    cases hsource : option.nextSource with
    | none =>
      rw [hsource] at h
      cases h
    | some source =>
      rw [hsource] at h
      exact congrArg some h
  | none =>
    cases hclaim : claimant? declared (.ofCorrectness (parent.isCorrect option)) parent.id with
    | none =>
      rw [resolution_of_unclaimed hnext hclaim] at h
      cases h
    | some target =>
      rw [resolution_of_claimant? hnext hclaim] at h
      -- the rule that claims a correct option waits for a correct answer
      cases hcorrect : parent.isCorrect option with
      | false => exact Or.inl rfl
      | true =>
        rw [hcorrect] at h
        cases h

theorem Document.authorsRemediation_of_isCorrect {document : Document} {stage : Stage}
    (hstage : stage ∈ document.authored.map (Stage.resolved document.rules)) {option : StageOption}
    (hoption : option ∈ stage.options) (hcorrect : stage.isCorrect option = true)
    (hsource : option.nextSource = some .attemptsExceeded) :
    document.AuthorsRemediation stage.id option.id := by
  obtain ⟨parent, hparent, rfl⟩ := List.mem_map.mp hstage
  obtain ⟨original, horiginal, rfl⟩ := List.mem_map.mp hoption
  refine ⟨parent, hparent, rfl, original, horiginal, rfl, ?_⟩
  rcases isCorrect_or_authored_of_resolution (Option.some.inj hsource) with hincorrect | hauthored
  · -- resolving an option does not touch what decides about its correctness
    have hsame : (parent.resolved document.rules).isCorrect
        (original.resolved document.rules parent) = parent.isCorrect original := rfl
    rw [hsame, hincorrect] at hcorrect
    cases hcorrect
  · exact hauthored

/-! ## Correct answers -/

namespace Session

variable {session before after : Session} {threshold : Int} {replies : List SessionReply}
  {optionId : String} {option : StageOption} {action : Action} {step : StepResult}
  {document : Document}

namespace Gated

/-- Where the stages are those that a document is compiled to, a correct answer that the gate looks at
is one that the author marked. -/
theorem authorsRemediation (h : Gated threshold before replies optionId option action after step)
    (hstages : before.traversal.flow.stages = document.authored.map (Stage.resolved document.rules))
    (hcorrect : step.isCorrect = true) (hsource : option.nextSource = some .attemptsExceeded) :
    document.AuthorsRemediation step.stageId optionId := by
  obtain ⟨hmem, hid⟩ := Traversal.mem_and_id_of_option? h.option_eq
  have hstage := h.current_mem
  rw [hstages] at hstage
  rw [h.isCorrect_eq] at hcorrect
  rw [h.stageId_eq, ← hid]
  exact Document.authorsRemediation_of_isCorrect hstage hmem hcorrect hsource

/-- What is held back is looked at by the gate, and the action is replaced by a loop. -/
theorem held_of_ne (h : Gated threshold before replies optionId option action after step)
    (hne : step.action ≠ action) :
    option.nextSource = some .attemptsExceeded ∧ step.action = .loop := by
  by_cases hheld : option.nextSource = some .attemptsExceeded ∧ (step.attempts : Int) < threshold
  · exact ⟨hheld.1, by rw [h.action_eq, if_pos hheld]⟩
  · exact absurd (by rw [h.action_eq, if_neg hheld]) hne

end Gated

/-- At any time after its start, a session lets a correct answer through: the action that is carried
out is the one that the option has in the compiled flow, unless the author gave the option an action
and marked it as leading to remediation. So where another action is carried out, it is a loop, and
the answer is incorrect or its option is marked by the author, which no choice of a single choice
question is. -/
theorem correct_let_through {settings : Settings} {shared : Registry} {given : Option Registry}
    {options : SessionOptions} {question : Json}
    (hstart : start? settings shared given options question = .ok session)
    (calls : List SessionCall) :
    let now := (session.run calls).1
    flowFor session.manifest session.document = .ok now.traversal.flow
    ∧ (∀ document, session.document = .multipleChoice document → ∀ stageId optionId,
      ¬ session.document.AuthorsRemediation stageId optionId)
    ∧ ∀ optionId step, (now.perform (.submit optionId)).2 = .stepped step →
      ∃ option action, now.currentStage ∈ now.traversal.flow.stages
        ∧ now.currentStage.option? optionId = some option ∧ option.next = some action
        ∧ step.stageId = now.currentStage.id
        ∧ step.isCorrect = now.currentStage.isCorrect option
        ∧ (step.isCorrect = true → ¬ session.document.AuthorsRemediation step.stageId optionId →
          step.action = action)
        ∧ (step.action ≠ action → step.action = .loop
          ∧ (step.isCorrect = false
            ∨ session.document.AuthorsRemediation step.stageId optionId)) := by
  intro now
  obtain ⟨-, hdocument, hflow, -, -⟩ := started hstart
  obtain ⟨flow, hsound, hbegins⟩ := exists_sound_of_start? hstart
  have hsame : now.traversal.flow = session.traversal.flow :=
    congrArg Setup.flow (session.setup_run calls)
  refine ⟨?_, ?_, ?_⟩
  · rw [hsame]
    exact hflow
  · rintro document heq stageId optionId
    rw [heq]
    exact Document.not_authorsRemediation_multipleChoice document stageId optionId
  · intro optionId step hreply
    have htallied := tallied_run (tallied_begin hsound hbegins) calls
    obtain ⟨_, submitted, _, hcall, hstepped⟩ := stepped_of_reply htallied.onCourse hreply
    cases hcall
    have hgated := htallied.gated hstepped
    have hcompiled : now.traversal.flow.stages
        = session.document.authored.map (Stage.resolved session.document.rules) := by
      rw [hsame]
      exact stages_of_flowFor hdocument hflow
    refine ⟨submitted.option, submitted.action, hgated.current_mem, hgated.option_eq,
      hgated.next_eq, hgated.stageId_eq, hgated.isCorrect_eq, ?_, ?_⟩
    · intro hcorrect hfree
      by_contra hne
      exact hfree (hgated.authorsRemediation hcompiled hcorrect (hgated.held_of_ne hne).1)
    · intro hne
      obtain ⟨hsource, hloop⟩ := hgated.held_of_ne hne
      refine ⟨hloop, ?_⟩
      cases hcorrect : step.isCorrect with
      | false => exact Or.inl rfl
      | true => exact Or.inr (hgated.authorsRemediation hcompiled hcorrect hsource)

end Session

namespace Detour

/-- After an incorrect answer on `ASK`, a correct one is let through. -/
theorem let_through : ∃ session step option, startedLadder = .ok session
    ∧ ((session.run [.submit "b"]).1.perform (.submit "a")).2 = .stepped step
    ∧ (session.run [.submit "b"]).1.currentStage.option? "a" = some option
    ∧ step.isCorrect = true ∧ option.next = some step.action := by
  have hnow : startedLadder.toOption.bind (fun session =>
      ((session.run [.submit "b"]).1.perform (.submit "a")).2.step?.map fun step =>
        (session.document, step.stageId, step.isCorrect))
      = some (.declarative ladder, "ASK", true) := by decide +kernel
  have hfree : ¬ (Document.declarative ladder).AuthorsRemediation "ASK" "a" := by
    unfold Document.AuthorsRemediation
    decide
  obtain ⟨session, hstart, hreplied⟩ := except_toOption_bind_eq_some.mp hnow
  obtain ⟨step, hstep, hfields⟩ := Option.map_eq_some_iff.mp hreplied
  obtain ⟨hdocument, hid, hcorrect⟩ : _ ∧ _ ∧ _ := by
    simpa only [Prod.mk.injEq] using hfields
  have hreply := SessionReply.step?_eq_some.mp hstep
  obtain ⟨-, -, hlet⟩ := Session.correct_let_through hstart [.submit "b"]
  obtain ⟨option, action, -, hoption, hnext, -, -, haction, -⟩ := hlet "a" step hreply
  rw [hdocument, hid] at haction
  refine ⟨session, step, option, hstart, hreply, hoption, hcorrect, ?_⟩
  rw [haction hcorrect hfree, hnext]

/-- A question whose only correct option has an authored action that is marked as remediation. -/
def rawMarked : Json :=
  .object [("flow", .object [("entry_stage_id", .text "ASK")]), ("stages", .array [
    rawStage "ASK" [rawOption "a" [("is_correct", .bool true),
      ("next", .object [("type", .text "exit")]), ("next_source", .text "attempts_exceeded")]] []])]

/-- The question with a marked option, started on the built-in types. -/
def startedMarked : Except StartFailure Session :=
  Session.start? .standard (Registry.shared .standard).1 none options
    (typed "mcq-branching" rawMarked)

/-- Not every correct answer is let through: a marked option is held back at the first attempt. -/
theorem correct_held_back : ¬ ∀ settings shared given options question session,
    Session.start? settings shared given options question = .ok session →
    ∀ calls optionId step option,
      ((session.run calls).1.perform (.submit optionId)).2 = .stepped step →
      (session.run calls).1.currentStage.option? optionId = some option →
      step.isCorrect = true → option.next = some step.action := by
  intro hall
  have hnow : startedMarked.toOption.bind (fun session =>
      ((session.run []).1.perform (.submit "a")).2.step?.bind fun step =>
        ((session.run []).1.currentStage.option? "a").map fun option =>
          (step.isCorrect, step.action, option.next))
      = some (true, .loop, some (.exit (some .pass))) := by decide +kernel
  obtain ⟨session, hstart, hreplied⟩ := except_toOption_bind_eq_some.mp hnow
  obtain ⟨step, hstep, hoffered⟩ := Option.bind_eq_some_iff.mp hreplied
  obtain ⟨option, hoption, hfields⟩ := Option.map_eq_some_iff.mp hoffered
  obtain ⟨hcorrect, haction, hnext⟩ : _ ∧ _ ∧ _ := by
    simpa only [Prod.mk.injEq] using hfields
  have hsame := hall _ _ _ _ _ session hstart [] "a" step option
    (SessionReply.step?_eq_some.mp hstep) hoption hcorrect
  rw [hnext, haction] at hsame
  cases hsame

end Detour

end AdaptiveQuiz
