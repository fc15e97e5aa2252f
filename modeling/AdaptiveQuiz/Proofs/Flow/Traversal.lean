import AdaptiveQuiz.Flow.Traversal
import AdaptiveQuiz.Proofs.Flow.Soundness

/-!
# What a traversal does

Selecting and submitting read the stage shown and are refused for what they find there; only what is
carried out changes a traversal. Everything that can come of it is listed once, as a relation, and
later proofs go through the list. On a sound flow the traversal never leaves the stages of the flow,
and the actions of its options always find their target.

## Main definitions

* `Traversal.Refuses`: what is said of an option that cannot be chosen
* `Traversal.Step`: what comes of something that is carried out
* `Traversal.OnCourse`: a traversal of a sound flow that shows one of its stages

## Main statements

* `Traversal.select_eq_error`, `Traversal.submit_eq_error`: when an option is refused
* `Traversal.step_carryOut`: carrying something out is a step
* `Traversal.OnCourse.step`: every step keeps a traversal on course
-/

namespace AdaptiveQuiz

namespace Traversal

variable {traversal : Traversal}

/-- A traversal starts if the entry of the flow is a stage, and it shows this stage. -/
theorem start?_eq_ok {flow : Flow} :
    start? flow = .ok traversal
      ↔ ∃ stage, flow.stage? flow.entry = some stage ∧ traversal = ⟨flow, stage, [], none⟩ := by
  unfold start?
  cases hstage : flow.stage? flow.entry with
  | none => simp
  | some stage => simp [eq_comm]

/-! ## Choosing options -/

/-- What is said of an option that cannot be chosen: that the traversal has ended, or else that the
stage shown does not offer it. -/
inductive Refuses (traversal : Traversal) (optionId : String) : TraversalError → Prop where
  | ended {completion : Completion} (hended : traversal.completion = some completion) :
      Refuses traversal optionId (.terminated completion.finalStage)
  | notOffered (hactive : traversal.completion = none)
      (habsent : ∀ option ∈ traversal.current.options, option.id ≠ optionId) :
      Refuses traversal optionId (.unknownOption optionId traversal.current.id)

theorem option?_eq_none {stage : Stage} {optionId : String} :
    stage.option? optionId = none ↔ ∀ option ∈ stage.options, option.id ≠ optionId := by
  simp [Stage.option?]

theorem mem_and_id_of_option? {stage : Stage} {optionId : String} {option : StageOption}
    (h : stage.option? optionId = some option) : option ∈ stage.options ∧ option.id = optionId := by
  refine ⟨List.mem_of_find?_eq_some h, ?_⟩
  simpa using List.find?_some h

/-- Once a traversal has ended, there is one reason to refuse any option. -/
theorem refuses_of_ended {optionId : String} {completion : Completion} {error : TraversalError}
    (hended : traversal.completion = some completion) :
    traversal.Refuses optionId error ↔ error = .terminated completion.finalStage := by
  constructor
  · intro hrefuses
    cases hrefuses with
    | ended hended' =>
      rw [hended] at hended'
      cases hended'
      rfl
    | notOffered hactive _ =>
      rw [hended] at hactive
      cases hactive
  · rintro rfl
    exact .ended hended

theorem refuses_of_active {optionId : String} {error : TraversalError}
    (hactive : traversal.completion = none) :
    traversal.Refuses optionId error ↔ traversal.current.option? optionId = none
      ∧ error = .unknownOption optionId traversal.current.id := by
  rw [option?_eq_none]
  constructor
  · intro hrefuses
    cases hrefuses with
    | ended hended =>
      rw [hactive] at hended
      cases hended
    | notOffered _ habsent => exact ⟨habsent, rfl⟩
  · rintro ⟨habsent, rfl⟩
    exact .notOffered hactive habsent

/-- An option cannot be selected exactly for the reasons to refuse it. -/
theorem select_eq_error {optionId : String} {error : TraversalError} :
    traversal.select optionId = .error error ↔ traversal.Refuses optionId error := by
  unfold select whileActive findOption
  cases hcompletion : traversal.completion with
  | some completion => simp [refuses_of_ended hcompletion, eq_comm]
  | none =>
    rw [refuses_of_active hcompletion]
    cases traversal.current.option? optionId with
    | none => simp [Except.map, eq_comm]
    | some option => simp [Except.map]

theorem select_eq_ok {optionId : String} {event : Event}
    (h : traversal.select optionId = .ok event) : event = traversal.selection optionId := by
  unfold select whileActive at h
  split at h
  · cases h
  · cases hoption : traversal.findOption optionId with
    | error error =>
      rw [hoption] at h
      cases h
    | ok option =>
      rw [hoption] at h
      cases h
      rfl

/-- Submitting on an active traversal looks the option up and then its action. -/
theorem submit_of_active {optionId : String} (hactive : traversal.completion = none) :
    traversal.submit optionId = match traversal.current.option? optionId with
      | none => .error (.unknownOption optionId traversal.current.id)
      | some option => match option.next with
        | none => .error (.unresolved optionId traversal.current.id)
        | some action => .ok ⟨option, action, traversal.submission option action⟩ := by
  unfold submit whileActive findOption
  rw [hactive]
  cases traversal.current.option? optionId with
  | none => rfl
  | some option => cases option.next <;> rfl

/-- A submission is refused for the reasons to refuse the option, or because it has no action. -/
theorem submit_eq_error {optionId : String} {error : TraversalError} :
    traversal.submit optionId = .error error
      ↔ traversal.Refuses optionId error
        ∨ (traversal.completion = none ∧ ∃ option,
            traversal.current.option? optionId = some option ∧ option.next = none
              ∧ error = .unresolved optionId traversal.current.id) := by
  cases hcompletion : traversal.completion with
  | some completion => simp [submit, whileActive, hcompletion, refuses_of_ended hcompletion, eq_comm]
  | none =>
    rw [submit_of_active hcompletion, refuses_of_active hcompletion]
    cases traversal.current.option? optionId with
    | none => simp [eq_comm]
    | some option => cases hnext : option.next <;> simp [hnext, eq_comm]

/-- An accepted submission is of an option of the stage shown, with its action. -/
theorem submit_eq_ok {optionId : String} {submitted : Submitted} :
    traversal.submit optionId = .ok submitted
      ↔ traversal.completion = none
        ∧ traversal.current.option? optionId = some submitted.option
        ∧ submitted.option.next = some submitted.action
        ∧ submitted.event = traversal.submission submitted.option submitted.action := by
  rcases submitted with ⟨option, action, event⟩
  cases hcompletion : traversal.completion with
  | some completion => simp [submit, whileActive, hcompletion]
  | none =>
    rw [submit_of_active hcompletion]
    cases traversal.current.option? optionId with
    | none => simp
    | some found =>
      -- the option that was found is the one submitted, so its action is the one submitted
      constructor
      · intro h
        cases hnext : found.next with
        | none =>
          simp only [hnext] at h
          cases h
        | some next =>
          simp only [hnext] at h
          cases h
          exact ⟨rfl, rfl, hnext, rfl⟩
      · rintro ⟨-, hfound, hnext, hevent⟩
        cases hfound
        simp only at hnext hevent
        simp only [hnext, hevent]

/-! ## Carrying something out -/

/-- What comes of something that is carried out: the traversal stays, moves to a stage of the flow or
ends, and it stays where something cannot be done. -/
inductive Step (traversal : Traversal) :
    Proposal → Traversal → Except TraversalError (Option Completion) → Prop where
  | stay : Step traversal (.action .loop) traversal (.ok none)
  | move {action : Action} {target : String} {stage : Stage} (htarget : action.target? = some target)
      (hstage : traversal.flow.stage? target = some stage) :
      Step traversal (.action action)
        { traversal with current := stage, history := traversal.history ++ [traversal.current.id] }
        (.ok none)
  | lost {action : Action} {target : String} (htarget : action.target? = some target)
      (hstage : traversal.flow.stage? target = none) :
      Step traversal (.action action) traversal
        (.error (.unknownTarget traversal.current.id target))
  | leave (outcome : Option Outcome) :
      Step traversal (.action (.exit outcome))
        { traversal with completion := some (traversal.completionWith outcome) }
        (.ok (some (traversal.completionWith outcome)))
  | unsupported (content : Json) (description : String) :
      Step traversal (.other content description) traversal (.error (.unsupported description))

theorem step_moveTo {action : Action} {target : String} (htarget : action.target? = some target) :
    traversal.Step (.action action) (traversal.moveTo target).1 (traversal.moveTo target).2 := by
  unfold moveTo
  cases hstage : traversal.flow.stage? target with
  | none => exact .lost htarget hstage
  | some stage => exact .move htarget hstage

/-- Whatever is carried out is a step. -/
theorem step_carryOut (traversal : Traversal) (proposal : Proposal) :
    traversal.Step proposal (traversal.carryOut proposal).1 (traversal.carryOut proposal).2 := by
  cases proposal with
  | action action =>
    cases action with
    | goto target => exact step_moveTo rfl
    | branch target => exact step_moveTo rfl
    | loop => exact .stay
    | exit outcome => exact .leave outcome
  | other content description => exact .unsupported content description

/-- What comes of something is determined. -/
theorem Step.carryOut_eq {proposal : Proposal} {after : Traversal}
    {answer : Except TraversalError (Option Completion)}
    (h : traversal.Step proposal after answer) : traversal.carryOut proposal = (after, answer) := by
  cases h with
  | stay => rfl
  | @move action target stage htarget hstage =>
    cases action <;> cases htarget <;> simp only [carryOut, moveTo, hstage]
  | @lost action target htarget hstage =>
    cases action <;> cases htarget <;> simp only [carryOut, moveTo, hstage]
  | leave outcome => rfl
  | unsupported content description => rfl

/-- A move that is done leads to its target. -/
theorem moved_of_moveTo {target : String} {after : Traversal} {completion? : Option Completion}
    (h : traversal.moveTo target = (after, .ok completion?)) :
    after.current.id = target ∧ after.history = traversal.history ++ [traversal.current.id] := by
  unfold moveTo at h
  cases hstage : traversal.flow.stage? target with
  | none =>
    rw [hstage] at h
    cases h
  | some stage =>
    rw [hstage] at h
    cases h
    exact ⟨(mem_and_id_of_stage? hstage).2, rfl⟩

theorem apply_of_active (hactive : traversal.completion = none) (proposal : Proposal) :
    traversal.apply proposal = ⟨(traversal.carryOut proposal).1, [traversal.transition proposal],
      (traversal.carryOut proposal).2⟩ := by
  rw [apply, hactive]

theorem apply_of_ended {completion : Completion} (hended : traversal.completion = some completion)
    (proposal : Proposal) :
    traversal.apply proposal = ⟨traversal, [], .error (.terminated completion.finalStage)⟩ := by
  rw [apply, hended]

/-- The completion that is answered is the one that the traversal ends with. -/
theorem Step.completion_eq {proposal : Proposal} {after : Traversal} {completion : Completion}
    (h : traversal.Step proposal after (.ok (some completion))) :
    after.completion = some completion := by
  cases h
  rfl

/-- A traversal ends by an exit only. -/
theorem Step.exists_exit {action : Action} {after : Traversal} {completion : Completion}
    (h : traversal.Step (.action action) after (.ok (some completion))) :
    ∃ outcome, action = .exit outcome ∧ completion = traversal.completionWith outcome := by
  cases h with
  | leave outcome => exact ⟨outcome, rfl, rfl⟩

/-- Without a completion that is answered, a traversal does not end. -/
theorem Step.completion_eq_of_none {proposal : Proposal} {after : Traversal}
    (h : traversal.Step proposal after (.ok none)) : after.completion = traversal.completion := by
  cases h <;> rfl

/-- A stage that was left stays among those that were left. -/
theorem Step.mem_history {proposal : Proposal} {after : Traversal}
    {answer : Except TraversalError (Option Completion)} {id : String}
    (h : traversal.Step proposal after answer) (hid : id ∈ traversal.history) :
    id ∈ after.history := by
  cases h with
  | move htarget hstage => exact List.mem_append_left _ hid
  | stay => exact hid
  | lost => exact hid
  | leave => exact hid
  | unsupported => exact hid

/-! ## On sound flows -/

/-- A traversal of a sound flow that shows one of its stages. -/
structure OnCourse (traversal : Traversal) : Prop where
  sound : traversal.flow.Sound
  current_mem : traversal.current ∈ traversal.flow.stages

/-- A sound flow can be traversed. -/
theorem exists_start? {flow : Flow} (hsound : flow.Sound) :
    ∃ traversal, start? flow = .ok traversal := by
  have hsome : flow.stage? flow.entry ≠ none := fun hnone =>
    stage?_eq_none.mp hnone hsound.entry_mem
  obtain ⟨stage, hstage⟩ := Option.ne_none_iff_exists'.mp hsome
  exact ⟨_, start?_eq_ok.mpr ⟨stage, hstage, rfl⟩⟩

theorem onCourse_of_start? {flow : Flow} (hsound : flow.Sound)
    (hstart : start? flow = .ok traversal) : traversal.OnCourse := by
  obtain ⟨stage, hstage, rfl⟩ := start?_eq_ok.mp hstart
  exact ⟨hsound, (mem_and_id_of_stage? hstage).1⟩

namespace OnCourse

/-- A step leads from one stage of the flow to another. -/
theorem step {proposal : Proposal} {after : Traversal}
    {answer : Except TraversalError (Option Completion)} (h : traversal.OnCourse)
    (hstep : traversal.Step proposal after answer) : after.OnCourse := by
  cases hstep with
  | move _ hstage => exact ⟨h.sound, (mem_and_id_of_stage? hstage).1⟩
  | leave outcome => exact ⟨h.sound, h.current_mem⟩
  | stay => exact h
  | lost => exact h
  | unsupported => exact h

/-- Every option of the stage shown has an action, so options are refused for no other reason. -/
theorem submit_eq_error (h : traversal.OnCourse) {optionId : String} {error : TraversalError} :
    traversal.submit optionId = .error error ↔ traversal.Refuses optionId error := by
  rw [Traversal.submit_eq_error, or_iff_left]
  rintro ⟨-, option, hoption, hnone, -⟩
  have hmem : option ∈ traversal.current.options := (mem_and_id_of_option? hoption).1
  obtain ⟨⟨action, hnext, -⟩, -⟩ := h.sound.settled traversal.current h.current_mem option hmem
  rw [hnext] at hnone
  cases hnone

/-- The action of an option of the stage shown finds its target. -/
theorem stage?_isSome_of_target? (h : traversal.OnCourse) {option : StageOption} {action : Action}
    {target : String} (hoption : option ∈ traversal.current.options)
    (hnext : option.next = some action) (htarget : action.target? = some target) :
    (traversal.flow.stage? target).isSome = true := by
  have hmem : target ∈ traversal.current.targets :=
    List.mem_filterMap.mpr ⟨option, hoption, by rw [hnext]; exact htarget⟩
  have hid : target ∈ traversal.flow.stageIds :=
    h.sound.targets_mem traversal.current h.current_mem target hmem
  exact stage?_isSome.mpr hid

/-- So what an accepted submission leads to can be done, as it is or held back. -/
theorem carryOut_isOk (h : traversal.OnCourse) {optionId : String} {submitted : Submitted}
    {action : Action} (hsubmit : traversal.submit optionId = .ok submitted)
    (haction : action = submitted.action ∨ action = .loop) {error : TraversalError} :
    (traversal.carryOut (.action action)).2 ≠ .error error := by
  obtain ⟨-, hoption, hnext, -⟩ := submit_eq_ok.mp hsubmit
  have hstep := traversal.step_carryOut (.action action)
  intro herror
  -- the only step of an action that fails is one that finds no target
  rw [herror] at hstep
  generalize (traversal.carryOut (.action action)).1 = after at hstep
  cases hstep with
  | lost htarget hnone =>
    rcases haction with rfl | rfl
    · have hsome := h.stage?_isSome_of_target? (mem_and_id_of_option? hoption).1 hnext htarget
      rw [hnone] at hsome
      cases hsome
    · -- a loop has no target
      cases htarget

end OnCourse

end Traversal

end AdaptiveQuiz
