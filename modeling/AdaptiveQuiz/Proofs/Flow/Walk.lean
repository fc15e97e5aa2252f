import AdaptiveQuiz.Flow.Walk
import AdaptiveQuiz.Proofs.Flow.Traversal

/-!
# Walks on flows of any kind

A flow made by hand may have options without actions, or lead to stages that are not there. More is
refused on such a flow, but a walk stays in order: it shows a stage of the flow, its history grows by
the stages that are left and by nothing else, and it ends at most once. What is refused leaves the
walk as it was. There is one exception: a transition is noted before its target is looked up, so the
event of a transition that fails stays in the journal.

## Main definitions

* `Walk.selectionEntry`, `Walk.submissionEntry`, `Walk.transitionEntry`: the entries of a journal
* `Walk.Applies`: what a call hands over to be applied
* `Walk.Moves`, `Walk.Exits`: the calls that leave a stage, and those that end a walk
* `TraversalError.IsNoted`: the refusals that come after the entry of what is refused
* `Walk.Lawful`: what a call may do
* `Traversal.Within`: a traversal that is in order

## Main statements

* `Walk.perform_cases`: a call applies something to an active walk, or leaves the traversal alone
* `Walk.lawful_perform`: every call is lawful
* `Walk.within_run`: a run keeps a traversal in order
* `Walk.run_of_ended`: after the end every call is refused, and nothing changes
* `Walk.runs_safely`
-/

namespace AdaptiveQuiz

/-- The refusals that come after the entry of what is refused. -/
def TraversalError.IsNoted : TraversalError → Prop
  | .unknownTarget _ _ => True
  | .unsupported _ => True
  | .entryMissing _ => False
  | .terminated _ => False
  | .unknownOption _ _ => False
  | .unresolved _ _ => False
  | .fieldless _ => False

/-- What comes back once the walk has ended. Time may still pass. -/
def WalkCall.tooLate (completion : Completion) : WalkCall → WalkReply
  | .advance _ => .done
  | .select _ => .refused (.terminated completion.finalStage)
  | .submit _ => .refused (.terminated completion.finalStage)
  | .apply _ => .refused (.terminated completion.finalStage)
  | .applyFieldless _ => .refused (.terminated completion.finalStage)
  | .answer _ => .refused (.terminated completion.finalStage)

/-! ## Steps of a traversal -/

namespace Traversal

variable {traversal after : Traversal} {proposal : Proposal} {action : Action}
  {answer : Except TraversalError (Option Completion)} {optionId : String} {error : TraversalError}

/-- An action whose target is a stage of the flow moves there. -/
theorem Step.moved (h : traversal.Step (.action action) after answer) {target : String}
    {stage : Stage} (htarget : action.target? = some target)
    (hstage : traversal.flow.stage? target = some stage) :
    after = { traversal with
      current := stage, history := traversal.history ++ [traversal.current.id] } := by
  cases h with
  | stay => cases htarget
  | leave outcome => cases htarget
  | move htarget' hstage' =>
    cases htarget.symm.trans htarget'
    cases hstage.symm.trans hstage'
    rfl
  | lost htarget' hnone =>
    cases htarget.symm.trans htarget'
    cases hstage.symm.trans hnone

/-- Nothing else changes the stage shown or the history. -/
theorem Step.stayed (h : traversal.Step proposal after answer)
    (hstays : ∀ action target stage, proposal = .action action → action.target? = some target →
      traversal.flow.stage? target ≠ some stage) :
    after.current = traversal.current ∧ after.history = traversal.history := by
  cases h with
  | move htarget hstage => exact absurd hstage (hstays _ _ _ rfl htarget)
  | stay => exact ⟨rfl, rfl⟩
  | lost => exact ⟨rfl, rfl⟩
  | leave => exact ⟨rfl, rfl⟩
  | unsupported => exact ⟨rfl, rfl⟩

theorem Step.exited {outcome : Option Outcome}
    (h : traversal.Step (.action (.exit outcome)) after answer) :
    after.completion = some (traversal.completionWith outcome) := by
  cases h with
  | leave => rfl
  | move htarget => cases htarget
  | lost htarget => cases htarget

/-- Nothing but an exit ends a traversal. -/
theorem Step.unended (h : traversal.Step proposal after answer)
    (hopen : ∀ outcome, proposal ≠ .action (.exit outcome)) :
    after.completion = traversal.completion := by
  cases h with
  | leave outcome => exact absurd rfl (hopen outcome)
  | stay => rfl
  | move => rfl
  | lost => rfl
  | unsupported => rfl

/-- A move to something that is not a stage of the flow fails. -/
theorem Step.missed (h : traversal.Step (.action action) after answer) {target : String}
    (htarget : action.target? = some target) (hnone : traversal.flow.stage? target = none) :
    answer = .error (.unknownTarget traversal.current.id target) := by
  cases h with
  | stay => cases htarget
  | leave outcome => cases htarget
  | move htarget' hstage =>
    cases htarget.symm.trans htarget'
    cases hnone.symm.trans hstage
  | lost htarget' =>
    cases htarget.symm.trans htarget'
    rfl

/-- What fails is noted, and leaves the traversal where it is. -/
theorem Step.failed (h : traversal.Step proposal after (.error error)) :
    after = traversal ∧ error.IsNoted := by
  cases h with
  | lost => exact ⟨rfl, trivial⟩
  | unsupported => exact ⟨rfl, trivial⟩

theorem Step.history_prefix (h : traversal.Step proposal after answer) :
    traversal.history <+: after.history := by
  cases h with
  | move => exact List.prefix_append ..
  | stay => exact List.prefix_rfl
  | lost => exact List.prefix_rfl
  | leave => exact List.prefix_rfl
  | unsupported => exact List.prefix_rfl

/-- An option is refused before there is an event. -/
theorem Refuses.not_isNoted (h : traversal.Refuses optionId error) : ¬ error.IsNoted := by
  cases h <;> exact id

theorem not_isNoted_of_submit (h : traversal.submit optionId = .error error) :
    ¬ error.IsNoted := by
  rcases submit_eq_error.mp h with hrefuses | ⟨-, _, -, -, rfl⟩
  · exact hrefuses.not_isNoted
  · exact id

/-- A traversal of a flow that shows one of its stages and, if it has ended, did so there. -/
structure Within (flow : Flow) (traversal : Traversal) : Prop where
  flow_eq : traversal.flow = flow
  stage?_current : flow.stage? traversal.current.id = some traversal.current
  closed : ∀ completion, traversal.completion = some completion →
    completion.path = traversal.history ++ [traversal.current.id]
      ∧ completion.finalStage = traversal.current.id

theorem within_start {flow : Flow} (h : start? flow = .ok traversal) : traversal.Within flow := by
  obtain ⟨stage, hstage, rfl⟩ := start?_eq_ok.mp h
  have hid : stage.id = flow.entry := (mem_and_id_of_stage? hstage).2
  exact ⟨rfl, hid ▸ hstage, nofun⟩

/-- Whatever is carried out on an active traversal keeps it in order. -/
theorem Within.step {flow : Flow} (h : traversal.Within flow) (hactive : traversal.completion = none)
    (hstep : traversal.Step proposal after answer) : after.Within flow := by
  cases hstep with
  | move htarget hstage =>
    rw [h.flow_eq] at hstage
    have hid := (mem_and_id_of_stage? hstage).2
    refine ⟨h.flow_eq, hid ▸ hstage, fun completion hended => ?_⟩
    -- the move leaves the completion as it is, which is missing
    cases hactive.symm.trans hended
  | leave outcome =>
    refine ⟨h.flow_eq, h.stage?_current, fun completion hended => ?_⟩
    cases hended
    exact ⟨rfl, rfl⟩
  | stay => exact h
  | lost => exact h
  | unsupported => exact h

end Traversal

/-! ## Calls of a walk -/

namespace Walk

variable {flow : Flow} {walk before after : Walk} {call : WalkCall} {reply : WalkReply}
  {earlier : List LogEntry} {proposal : Proposal} {optionId : String}

/-- The entry that something is applied on the stage shown, made at a reading of the clock. -/
def transitionEntry (walk : Walk) (proposal : Proposal) (reading : Nat) : LogEntry where
  kind := .transition
  payload := .object [("from", .text walk.traversal.current.id), ("action", proposal.toJson)]
  timestamp := walk.clock.reading reading

/-- The entry that an option of the stage shown is submitted. -/
def submissionEntry (walk : Walk) (option : StageOption) (action : Action) : LogEntry where
  kind := .submitStage
  payload := .object [("stage", .text walk.traversal.current.id), ("option_id", .text option.id),
    ("is_correct", .bool (walk.traversal.current.isCorrect option)),
    ("diagnostic", .ofText? option.diagnostic), ("next", action.toJson)]
  timestamp := walk.clock.reading 0

/-- The entry that an option of the stage shown is selected. -/
def selectionEntry (walk : Walk) (optionId : String) : LogEntry where
  kind := .selectOption
  payload := .object [("stage", .text walk.traversal.current.id), ("option_id", .text optionId)]
  timestamp := walk.clock.reading 0

/-- What a call hands over to be applied, and the entries that come before it. Answering a stage
hands over the action of the option, once its submission is accepted. -/
inductive Applies (walk : Walk) : WalkCall → List LogEntry → Proposal → Prop where
  | apply (proposal : Proposal) : Applies walk (.apply proposal) [] proposal
  | answer {optionId : String} {option : StageOption} {action : Action}
      (hoption : walk.traversal.current.option? optionId = some option)
      (hnext : option.next = some action) :
      Applies walk (.answer optionId) [walk.submissionEntry option action] (.action action)

/-- A call by which an active walk leaves the stage shown for a stage of the flow. -/
def Moves (walk : Walk) (call : WalkCall) (stage : Stage) : Prop :=
  walk.traversal.completion = none ∧ ∃ earlier action target,
    walk.Applies call earlier (.action action) ∧ action.target? = some target
      ∧ walk.traversal.flow.stage? target = some stage

/-- A call by which an active walk exits the flow. -/
def Exits (walk : Walk) (call : WalkCall) (outcome : Option Outcome) : Prop :=
  walk.traversal.completion = none ∧ ∃ earlier, walk.Applies call earlier (.action (.exit outcome))

/-- What a call may do to a walk. The stage shown changes exactly if the call moves the walk, and
then the stage that is left is added to the history; the walk ends exactly if the call exits. If
there is a journal, then what is selected, submitted or applied is added to it, and nothing else.
What is refused changes nothing, except that it may have been entered into the journal before. This
is so for moves to what is not a stage of the flow, and for what is not an action: their one entry
stays. -/
structure Lawful (before : Walk) (call : WalkCall) (after : Walk) (reply : WalkReply) : Prop where
  moved : ∀ stage, before.Moves call stage → after.traversal.current = stage
    ∧ after.traversal.history = before.traversal.history ++ [before.traversal.current.id]
  stayed : (∀ stage, ¬ before.Moves call stage) →
    after.traversal.current = before.traversal.current
      ∧ after.traversal.history = before.traversal.history
  exited : ∀ outcome, before.Exits call outcome → after.traversal.completion
    = some ⟨outcome == some .pass, before.traversal.history ++ [before.traversal.current.id],
      before.traversal.current.id⟩
  unended : (∀ outcome, ¬ before.Exits call outcome) →
    after.traversal.completion = before.traversal.completion
  lost : ∀ earlier action target, before.traversal.completion = none →
    before.Applies call earlier (.action action) → action.target? = some target →
    before.traversal.flow.stage? target = none →
    reply = .refused (.unknownTarget before.traversal.current.id target)
  unsupported : ∀ earlier content description, before.traversal.completion = none →
    before.Applies call earlier (.other content description) →
    reply = .refused (.unsupported description)
  selected : ∀ optionId, call = .select optionId → reply = .done →
    after.journal = before.journal.map (· ++ [before.selectionEntry optionId])
  submitted : ∀ optionId action, call = .submit optionId → reply = .submitted action →
    ∃ option, before.traversal.current.option? optionId = some option ∧ option.next = some action
      ∧ after.journal = before.journal.map (· ++ [before.submissionEntry option action])
  applied : ∀ earlier proposal, before.traversal.completion = none →
    before.Applies call earlier proposal → after.journal
      = before.journal.map (· ++ earlier ++ [before.transitionEntry proposal earlier.length])
  passed : ∀ milliseconds, call = .advance milliseconds → after.journal = before.journal
  refused : ∀ error, reply = .refused error → ¬ error.IsNoted → after = before
  refused_noted : ∀ error, reply = .refused error → error.IsNoted →
    after.traversal = before.traversal ∧ ∃ earlier proposal, before.Applies call earlier proposal
      ∧ after.journal
        = before.journal.map (· ++ earlier ++ [before.transitionEntry proposal earlier.length])

theorem Applies.unique {earlier' : List LogEntry} {proposal' : Proposal}
    (h : walk.Applies call earlier proposal) (h' : walk.Applies call earlier' proposal') :
    earlier' = earlier ∧ proposal' = proposal := by
  cases h with
  | apply =>
    cases h'
    exact ⟨rfl, rfl⟩
  | answer hoption hnext =>
    cases h' with
    | answer hoption' hnext' =>
      cases hoption.symm.trans hoption'
      cases hnext.symm.trans hnext'
      exact ⟨rfl, rfl⟩

/-- A call that leaves the traversal alone. -/
structure Still (before : Walk) (call : WalkCall) (after : Walk) (reply : WalkReply) : Prop where
  not_applies : before.traversal.completion = none →
    ∀ earlier proposal, ¬ before.Applies call earlier proposal
  traversal_eq : after.traversal = before.traversal
  selected : ∀ optionId, call = .select optionId → reply = .done →
    after.journal = before.journal.map (· ++ [before.selectionEntry optionId])
  submitted : ∀ optionId action, call = .submit optionId → reply = .submitted action →
    ∃ option, before.traversal.current.option? optionId = some option ∧ option.next = some action
      ∧ after.journal = before.journal.map (· ++ [before.submissionEntry option action])
  passed : ∀ milliseconds, call = .advance milliseconds → after.journal = before.journal
  refused : ∀ error, reply = .refused error → after = before ∧ ¬ error.IsNoted

/-- A call that applies something to an active walk. -/
structure Carried (before : Walk) (call : WalkCall) (earlier : List LogEntry) (proposal : Proposal)
    (after : Walk) (reply : WalkReply) : Prop where
  active : before.traversal.completion = none
  applies : before.Applies call earlier proposal
  traversal_eq : after.traversal = (before.traversal.carryOut proposal).1
  journal_eq : after.journal
    = before.journal.map (· ++ earlier ++ [before.transitionEntry proposal earlier.length])
  reply_eq : reply = .ofExcept .applied (before.traversal.carryOut proposal).2

/-! ### Writing into the journal -/

@[simp] theorem traversal_note (walk : Walk) (event : Event) :
    (walk.note event).traversal = walk.traversal := by
  unfold note
  split <;> rfl

theorem journal_note (walk : Walk) (event : Event) : (walk.note event).journal
    = walk.journal.map (· ++ [.ofEvent (walk.clock.reading 0) event]) := by
  unfold note
  split
  · next hjournal => rw [hjournal, Option.map_none]
  · next log hjournal => rw [hjournal]; rfl

/-- Two events are entered at two readings of the clock, wherever the walk is by then. -/
theorem journal_note_note (walk : Walk) (traversal : Traversal) (first second : Event) :
    ({ walk.note first with traversal := traversal }.note second).journal
      = walk.journal.map (· ++ [.ofEvent (walk.clock.reading 0) first]
        ++ [.ofEvent (walk.clock.reading 1) second]) := by
  rw [journal_note]
  unfold note
  split
  · next hjournal => simp only [hjournal, Option.map_none]
  · next log hjournal => rw [hjournal]; rfl

/-! ### One call -/

theorem apply_of_active (hactive : walk.traversal.completion = none) (proposal : Proposal) :
    walk.apply proposal
      = ({ walk with traversal := (walk.traversal.carryOut proposal).1 }.note
          (walk.traversal.transition proposal), (walk.traversal.carryOut proposal).2) := by
  simp only [apply, Traversal.apply_of_active hactive]
  rfl

theorem apply_of_ended {completion : Completion}
    (hended : walk.traversal.completion = some completion) (proposal : Proposal) :
    walk.apply proposal = (walk, .error (.terminated completion.finalStage)) := by
  simp only [apply, Traversal.apply_of_ended hended]
  rfl

theorem answer_of_refused {error : TraversalError}
    (h : walk.traversal.submit optionId = .error error) :
    walk.answer optionId = (walk, .error error) := by
  simp only [answer, submit, h]

theorem answer_of_accepted {submitted : Submitted}
    (h : walk.traversal.submit optionId = .ok submitted) :
    walk.answer optionId = (walk.note submitted.event).apply (.action submitted.action) := by
  simp only [answer, submit, h]

/-- What is applied to an active walk is entered, whether it fails or not. -/
theorem carried_apply (hactive : walk.traversal.completion = none) (proposal : Proposal) :
    Carried walk (.apply proposal) [] proposal (walk.perform (.apply proposal)).1
      (walk.perform (.apply proposal)).2 := by
  simp only [perform, apply_of_active hactive]
  refine ⟨hactive, .apply proposal, traversal_note _ _, ?_, rfl⟩
  rw [journal_note]
  simp only [List.append_nil]
  rfl

/-- So is the action of an option that is answered with, after the submission. -/
theorem carried_answer {submitted : Submitted}
    (h : walk.traversal.submit optionId = .ok submitted) :
    Carried walk (.answer optionId) [walk.submissionEntry submitted.option submitted.action]
      (.action submitted.action) (walk.perform (.answer optionId)).1
      (walk.perform (.answer optionId)).2 := by
  obtain ⟨hactive, hoption, hnext, hevent⟩ := Traversal.submit_eq_ok.mp h
  -- the submission is noted first, and does not end the walk
  have hactive' : (walk.note submitted.event).traversal.completion = none := by
    rw [traversal_note, hactive]
  simp only [perform, answer_of_accepted h, apply_of_active hactive', traversal_note]
  refine ⟨hactive, .answer hoption hnext, traversal_note _ _, ?_, rfl⟩
  rw [journal_note_note, hevent]
  rfl

/-- A call that is refused before anything is entered changes nothing at all. -/
theorem still_of_refused {error : TraversalError}
    (hidle : walk.traversal.completion = none →
      ∀ earlier proposal, ¬ walk.Applies call earlier proposal)
    (hnot : ¬ error.IsNoted) : Still walk call walk (.refused error) where
  not_applies := hidle
  traversal_eq := rfl
  selected := by
    intro _ _ hreply
    cases hreply
  submitted := by
    intro _ _ _ hreply
    cases hreply
  passed _ _ := rfl
  refused := by
    intro _ hreply
    cases hreply
    exact ⟨rfl, hnot⟩

/-- A selection is entered, or refused before. -/
theorem still_select (walk : Walk) (optionId : String) :
    Still walk (.select optionId) (walk.perform (.select optionId)).1
      (walk.perform (.select optionId)).2 := by
  have hidle (earlier : List LogEntry) (proposal : Proposal) :
      ¬ walk.Applies (.select optionId) earlier proposal := by
    intro happlies
    cases happlies
  simp only [perform, select]
  cases hselect : walk.traversal.select optionId with
  | error error =>
    exact still_of_refused (fun _ => hidle) (Traversal.select_eq_error.mp hselect).not_isNoted
  | ok event =>
    refine ⟨fun _ => hidle, traversal_note _ _, ?selected, ?submitted, ?passed, ?refused⟩
    case selected =>
      intro _ hcall _
      cases hcall
      rw [journal_note, Traversal.select_eq_ok hselect]
      rfl
    case submitted =>
      intro _ _ hcall
      cases hcall
    case passed =>
      intro _ hcall
      cases hcall
    case refused =>
      intro _ hreply
      cases hreply

/-- A submission is entered, or refused before. -/
theorem still_submit (walk : Walk) (optionId : String) :
    Still walk (.submit optionId) (walk.perform (.submit optionId)).1
      (walk.perform (.submit optionId)).2 := by
  have hidle (earlier : List LogEntry) (proposal : Proposal) :
      ¬ walk.Applies (.submit optionId) earlier proposal := by
    intro happlies
    cases happlies
  simp only [perform, submit]
  cases hsubmit : walk.traversal.submit optionId with
  | error error =>
    exact still_of_refused (fun _ => hidle) (Traversal.not_isNoted_of_submit hsubmit)
  | ok submitted =>
    refine ⟨fun _ => hidle, traversal_note _ _, ?selected, ?submitted, ?passed, ?refused⟩
    case selected =>
      intro _ hcall
      cases hcall
    case submitted =>
      intro _ _ hcall hreply
      cases hcall
      cases hreply
      obtain ⟨-, hoption, hnext, hevent⟩ := Traversal.submit_eq_ok.mp hsubmit
      refine ⟨submitted.option, hoption, hnext, ?_⟩
      rw [journal_note, hevent]
      rfl
    case passed =>
      intro _ hcall
      cases hcall
    case refused =>
      intro _ hreply
      cases hreply

/-- A value without fields is refused. -/
theorem still_applyFieldless (walk : Walk) (kind : String) :
    Still walk (.applyFieldless kind) (walk.perform (.applyFieldless kind)).1
      (walk.perform (.applyFieldless kind)).2 := by
  have hidle (earlier : List LogEntry) (proposal : Proposal) :
      ¬ walk.Applies (.applyFieldless kind) earlier proposal := by
    intro happlies
    cases happlies
  simp only [perform, applyFieldless, Traversal.applyFieldless, Traversal.whileActive]
  cases walk.traversal.completion with
  | none => exact still_of_refused (fun _ => hidle) id
  | some completion => exact still_of_refused (fun _ => hidle) id

/-- Time that passes leaves everything but the clock as it is. -/
theorem still_advance (walk : Walk) (milliseconds : Int) :
    Still walk (.advance milliseconds) (walk.perform (.advance milliseconds)).1
      (walk.perform (.advance milliseconds)).2 where
  not_applies := by
    intro _ _ _ happlies
    cases happlies
  traversal_eq := rfl
  selected := by
    intro _ hcall
    cases hcall
  submitted := by
    intro _ _ hcall
    cases hcall
  passed _ _ := rfl
  refused := by
    intro _ hreply
    cases hreply

/-- An option that is refused is not answered with. -/
theorem not_applies_answer {error : TraversalError}
    (hsubmit : walk.traversal.submit optionId = .error error)
    (hactive : walk.traversal.completion = none) (earlier : List LogEntry) (proposal : Proposal) :
    ¬ walk.Applies (.answer optionId) earlier proposal := by
  intro happlies
  cases happlies with
  | @answer _ option action hoption hnext =>
    have haccepted : walk.traversal.submit optionId
        = .ok ⟨option, action, walk.traversal.submission option action⟩ :=
      Traversal.submit_eq_ok.mpr ⟨hactive, hoption, hnext, rfl⟩
    cases hsubmit.symm.trans haccepted

/-- A call applies something to an active walk, or it leaves the traversal alone. -/
theorem perform_cases (walk : Walk) (call : WalkCall) :
    Still walk call (walk.perform call).1 (walk.perform call).2
      ∨ ∃ earlier proposal,
        Carried walk call earlier proposal (walk.perform call).1 (walk.perform call).2 := by
  cases call with
  | select optionId => exact Or.inl (walk.still_select optionId)
  | submit optionId => exact Or.inl (walk.still_submit optionId)
  | applyFieldless kind => exact Or.inl (walk.still_applyFieldless kind)
  | advance milliseconds => exact Or.inl (walk.still_advance milliseconds)
  | apply proposal =>
    cases hcompletion : walk.traversal.completion with
    | none => exact Or.inr ⟨[], proposal, carried_apply hcompletion proposal⟩
    | some completion =>
      -- too late to apply anything
      have hidle : walk.traversal.completion = none → ∀ earlier applied,
          ¬ walk.Applies (.apply proposal) earlier applied := by
        intro hactive
        cases hcompletion.symm.trans hactive
      simp only [perform]
      rw [apply_of_ended hcompletion]
      exact Or.inl (still_of_refused hidle id)
  | answer optionId =>
    cases hsubmit : walk.traversal.submit optionId with
    | ok submitted => exact Or.inr ⟨_, _, carried_answer hsubmit⟩
    | error error =>
      simp only [perform]
      rw [answer_of_refused hsubmit]
      exact Or.inl (still_of_refused (not_applies_answer hsubmit)
        (Traversal.not_isNoted_of_submit hsubmit))

/-! ## Lawful calls -/

theorem Still.lawful (h : Still before call after reply) : Lawful before call after reply where
  moved := by
    rintro stage ⟨hactive, _, _, _, happlies, -⟩
    exact absurd happlies (h.not_applies hactive _ _)
  stayed := fun _ => by
    rw [h.traversal_eq]
    exact ⟨rfl, rfl⟩
  exited := by
    rintro outcome ⟨hactive, _, happlies⟩
    exact absurd happlies (h.not_applies hactive _ _)
  unended := fun _ => by rw [h.traversal_eq]
  lost := fun _ _ _ hactive happlies => absurd happlies (h.not_applies hactive _ _)
  unsupported := fun _ _ _ hactive happlies => absurd happlies (h.not_applies hactive _ _)
  selected := h.selected
  submitted := h.submitted
  applied := fun _ _ hactive happlies => absurd happlies (h.not_applies hactive _ _)
  passed := h.passed
  refused := fun error hreply _ => (h.refused error hreply).1
  refused_noted := fun error hreply hnoted => absurd hnoted (h.refused error hreply).2

theorem Carried.step (h : Carried before call earlier proposal after reply) :
    before.traversal.Step proposal after.traversal (before.traversal.carryOut proposal).2 := by
  rw [h.traversal_eq]
  exact before.traversal.step_carryOut proposal

/-- What fails after it was entered leaves the traversal alone. -/
theorem Carried.failed {error : TraversalError}
    (h : Carried before call earlier proposal after reply) (hreply : reply = .refused error) :
    after.traversal = before.traversal ∧ error.IsNoted := by
  have hstep := h.step
  cases hanswer : (before.traversal.carryOut proposal).2 with
  | ok completion? =>
    rw [h.reply_eq, hanswer] at hreply
    cases hreply
  | error error' =>
    rw [h.reply_eq, hanswer] at hreply
    rw [hanswer] at hstep
    cases hreply
    exact hstep.failed

theorem Carried.lawful (h : Carried before call earlier proposal after reply) :
    Lawful before call after reply where
  moved := by
    rintro stage ⟨-, _, action, target, happlies, htarget, hstage⟩
    obtain ⟨-, rfl⟩ := h.applies.unique happlies
    rw [h.step.moved htarget hstage]
    exact ⟨rfl, rfl⟩
  stayed := by
    intro hstays
    refine h.step.stayed fun action target stage heq htarget hstage => ?_
    exact hstays stage ⟨h.active, earlier, action, target, heq ▸ h.applies, htarget, hstage⟩
  exited := by
    rintro outcome ⟨-, _, happlies⟩
    obtain ⟨-, rfl⟩ := h.applies.unique happlies
    exact h.step.exited
  unended := by
    intro hopen
    refine h.step.unended fun outcome heq => ?_
    exact hopen outcome ⟨h.active, earlier, heq ▸ h.applies⟩
  lost := by
    intro _ action target _ happlies htarget hnone
    obtain ⟨-, rfl⟩ := h.applies.unique happlies
    rw [h.reply_eq, h.step.missed htarget hnone]
    rfl
  unsupported := by
    intro _ content description _ happlies
    obtain ⟨-, rfl⟩ := h.applies.unique happlies
    rw [h.reply_eq]
    rfl
  selected := by
    rintro _ rfl
    cases h.applies
  submitted := by
    rintro _ _ rfl
    cases h.applies
  applied := by
    intro _ _ _ happlies
    obtain ⟨rfl, rfl⟩ := h.applies.unique happlies
    exact h.journal_eq
  passed := by
    rintro _ rfl
    cases h.applies
  refused := fun error hreply hnot => absurd (h.failed hreply).2 hnot
  refused_noted := fun error hreply _ =>
    ⟨(h.failed hreply).1, earlier, proposal, h.applies, h.journal_eq⟩

/-- Every call is lawful. -/
theorem lawful_perform (walk : Walk) (call : WalkCall) :
    Lawful walk call (walk.perform call).1 (walk.perform call).2 := by
  rcases walk.perform_cases call with hstill | ⟨earlier, proposal, hcarried⟩
  · exact hstill.lawful
  · exact hcarried.lawful

/-! ## Runs -/

theorem within_perform (h : walk.traversal.Within flow) (call : WalkCall) :
    (walk.perform call).1.traversal.Within flow := by
  rcases walk.perform_cases call with hstill | ⟨earlier, proposal, hcarried⟩
  · rw [hstill.traversal_eq]
    exact h
  · exact h.step hcarried.active hcarried.step

/-- A run keeps a traversal in order. -/
theorem within_run (h : walk.traversal.Within flow) (calls : List WalkCall) :
    (walk.run calls).1.traversal.Within flow := by
  induction calls generalizing walk with
  | nil => exact h
  | cons call rest ih => exact ih (within_perform h call)

theorem history_prefix_run (walk : Walk) (calls : List WalkCall) :
    walk.traversal.history <+: (walk.run calls).1.traversal.history := by
  induction calls generalizing walk with
  | nil => exact List.prefix_rfl
  | cons call rest ih =>
    have hcall : walk.traversal.history <+: (walk.perform call).1.traversal.history := by
      rcases walk.perform_cases call with hstill | ⟨earlier, proposal, hcarried⟩
      · exact hstill.traversal_eq ▸ List.prefix_rfl
      · exact hcarried.step.history_prefix
    exact hcall.trans (ih _)

/-- Once a walk has ended, every call but the passing of time is refused for this reason, whatever
it asks for, and nothing is noted. -/
theorem perform_of_ended {completion : Completion}
    (hended : walk.traversal.completion = some completion) (call : WalkCall) :
    (walk.perform call).1.traversal = walk.traversal
      ∧ (walk.perform call).1.journal = walk.journal
      ∧ (walk.perform call).2 = call.tooLate completion := by
  have hselect (optionId : String) : walk.traversal.select optionId
      = .error (.terminated completion.finalStage) :=
    Traversal.select_eq_error.mpr (.ended hended)
  have hsubmit (optionId : String) : walk.traversal.submit optionId
      = .error (.terminated completion.finalStage) :=
    Traversal.submit_eq_error.mpr (Or.inl (.ended hended))
  cases call with
  | select optionId =>
    simp only [perform, select, hselect]
    exact ⟨trivial, trivial, rfl⟩
  | submit optionId =>
    simp only [perform, submit, hsubmit]
    exact ⟨trivial, trivial, rfl⟩
  | apply proposal =>
    simp only [perform, apply_of_ended hended]
    exact ⟨trivial, trivial, rfl⟩
  | applyFieldless kind =>
    simp only [perform, applyFieldless, Traversal.applyFieldless, Traversal.whileActive, hended]
    exact ⟨trivial, trivial, rfl⟩
  | answer optionId =>
    simp only [perform, answer_of_refused (hsubmit optionId)]
    exact ⟨trivial, trivial, rfl⟩
  | advance milliseconds => exact ⟨rfl, rfl, rfl⟩

/-- After the end every call of a run is refused, and nothing changes. -/
theorem run_of_ended {completion : Completion}
    (hended : walk.traversal.completion = some completion) (calls : List WalkCall) :
    (walk.run calls).1.traversal = walk.traversal ∧ (walk.run calls).1.journal = walk.journal
      ∧ (walk.run calls).2 = calls.map (WalkCall.tooLate completion) := by
  induction calls generalizing walk with
  | nil => exact ⟨rfl, rfl, rfl⟩
  | cons call rest ih =>
    obtain ⟨htraversal, hjournal, hreply⟩ := perform_of_ended hended call
    have hended' : (walk.perform call).1.traversal.completion = some completion := by
      rw [htraversal, hended]
    obtain ⟨htraversal', hjournal', hreplies⟩ := ih hended'
    refine ⟨htraversal'.trans htraversal, hjournal'.trans hjournal, ?_⟩
    show (walk.perform call).2 :: ((walk.perform call).1.run rest).2 = _
    rw [hreply, hreplies, List.map_cons]

/-- On every flow on which a walk can start, however it was made, the walk shows a stage of the flow at
any time. Its history only grows, and every call is lawful: it changes the stage shown, the history and
the completion as the action that it applies says and not otherwise, and what is refused changes
nothing apart from the entry of a transition that fails. Once the walk has ended, on the stage shown
and with the whole way as its path, it stays as it is, and every call is refused for this reason. -/
theorem runs_safely {keepsJournal : Bool} {clock : Clock}
    (hstart : start? flow keepsJournal clock = .ok walk) (calls : List WalkCall) :
    let now := (walk.run calls).1
    now.traversal.flow = flow
    ∧ flow.stage? now.traversal.current.id = some now.traversal.current
    ∧ (∀ call, Lawful now call (now.perform call).1 (now.perform call).2)
    ∧ (∀ more, now.traversal.history <+: (now.run more).1.traversal.history)
    ∧ ∀ completion, now.traversal.completion = some completion →
      completion.path = now.traversal.history ++ [now.traversal.current.id]
      ∧ completion.finalStage = now.traversal.current.id
      ∧ ∀ more, (now.run more).1.traversal = now.traversal
        ∧ (now.run more).1.journal = now.journal
        ∧ (now.run more).2 = more.map (WalkCall.tooLate completion) := by
  intro now
  have hwithin : now.traversal.Within flow := by
    refine within_run ?_ calls
    unfold start? at hstart
    cases htraversal : Traversal.start? flow with
    | error error =>
      rw [htraversal] at hstart
      cases hstart
    | ok traversal =>
      rw [htraversal] at hstart
      cases hstart
      exact Traversal.within_start htraversal
  refine ⟨hwithin.flow_eq, hwithin.stage?_current, now.lawful_perform, now.history_prefix_run,
    fun completion hended => ?_⟩
  obtain ⟨hpath, hfinal⟩ := hwithin.closed completion hended
  exact ⟨hpath, hfinal, run_of_ended hended⟩

end Walk

namespace Detour

/-- A flow made by hand, with an option that leads nowhere, one without an action, and one that comes
back. -/
def deadEnd : Flow := ⟨none, none, "ASK", [stage "ASK"
  [{ plain "a" with next := some (.goto "NOWHERE") }, plain "b",
    { plain "c" with next := some (.goto "ASK") }] none]⟩

/-- A clock that shows another millisecond at each reading. -/
def ticking : Clock := ⟨fun n => n⟩

/-- What fails leaves no trace in the history and one entry in the journal, after what was there.
What comes after the exit is refused. -/
theorem deadEnd_exited :
    let calls : List WalkCall := [.answer "a", .submit "b", .applyFieldless "NoneType", .answer "c",
      .apply (.action (.exit (some .pass)))]
    ∃ walk completion, Walk.start? deadEnd true ticking = .ok walk
      ∧ ((walk.run [.select "a"]).1.perform (.apply (.action (.goto "NOWHERE")))).2
        = .refused (.unknownTarget "ASK" "NOWHERE")
      ∧ ((walk.run [.select "a"]).1.perform (.apply (.action (.goto "NOWHERE")))).1.traversal
        = (walk.run [.select "a"]).1.traversal
      ∧ ((walk.run [.select "a"]).1.perform (.apply (.action (.goto "NOWHERE")))).1.journal
        = some [⟨.selectOption, .object [("stage", .text "ASK"), ("option_id", .text "a")], 0⟩,
          ⟨.transition, .object [("from", .text "ASK"), ("action",
            .object [("type", .text "goto_stage"), ("target", .text "NOWHERE")])], 1⟩]
      ∧ (walk.run calls).1.traversal.completion = some completion
      ∧ completion.path = ["ASK", "ASK"]
      ∧ ((walk.run calls).1.run [.select "z", .advance 1, .answer "c"]).2
        = [.refused (.terminated "ASK"), .done, .refused (.terminated "ASK")] := by
  intro calls
  obtain ⟨walk, hstart⟩ : ∃ walk, Walk.start? deadEnd true ticking = .ok walk := ⟨_, rfl⟩
  have hcompletion : (walk.run calls).1.traversal.completion
      = some ⟨true, ["ASK", "ASK"], "ASK"⟩ := by
    cases hstart
    decide
  -- one transition is refused after a selection
  obtain ⟨-, -, hlawful, -⟩ := Walk.runs_safely hstart [.select "a"]
  have hfails := hlawful (.apply (.action (.goto "NOWHERE")))
  have hreply := hfails.lost [] (.goto "NOWHERE") "NOWHERE" (by cases hstart; rfl) (.apply _) rfl
    (by cases hstart; rfl)
  have hcurrent : (walk.run [.select "a"]).1.traversal.current.id = "ASK" := by
    cases hstart
    rfl
  rw [hcurrent] at hreply
  obtain ⟨hkept, earlier, proposal, happlies, hjournal⟩ := hfails.refused_noted _ hreply trivial
  -- and another walk ends
  obtain ⟨-, -, -, -, hended⟩ := Walk.runs_safely hstart calls
  obtain ⟨hpath, -, hlater⟩ := hended _ hcompletion
  obtain ⟨-, -, hreplies⟩ := hlater [.select "z", .advance 1, .answer "c"]
  refine ⟨walk, _, hstart, hreply, hkept, ?_, hcompletion, rfl, hreplies⟩
  cases happlies
  rw [hjournal]
  cases hstart
  rfl

end Detour

end AdaptiveQuiz
