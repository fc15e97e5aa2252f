import AdaptiveQuiz.Proofs.Document.RoundTrip
import AdaptiveQuiz.Proofs.Flow.Walk
import AdaptiveQuiz.Proofs.Session.Safety

/-!
# What a journal tells

A journal is only ever appended to, while a traversal changes. Yet nothing is lost: an account that
starts at the entry of the flow and follows the transitions of the journal arrives where the
traversal is, with the same history and the same completion. A transition is noted before it is
known whether it can be made, so the account has to leave out the failed ones by itself. In the
journal of a session, the incorrect submissions can be counted as well.

## Main definitions

* `Account`, with `Account.follow`, `Account.ofLog`: what the transitions of a journal come to
* `LogEntry.isMiss`: whether an entry tells of an incorrect submission on a stage
* `Recounts`: a journal tells everything about a traversal
* `Proposal.IsFaithful`: what is written down of a proposal is not mistaken for another action

## Main statements

* `Recounts.observe`, `Recounts.step`: what is noted keeps the journal in step with the traversal
* `Walk.recounted_run`, `Session.recounted_run`: so it is during a whole run
* `log_determines_state`
-/

namespace AdaptiveQuiz

open Schema

/-! ## Reading entries -/

namespace LogEntry

/-- The action that a transition was noted with. -/
def action? (entry : LogEntry) : Option Action :=
  if entry.kind = .transition then
    (entry.payload.field? "action").bind fun value => (Action.schema value).value?
  else none

/-- Whether an entry tells of an incorrect submission on a stage. -/
def isMiss (stageId : String) (entry : LogEntry) : Bool :=
  entry.kind == .submitStage && entry.payload.field? "stage" == some (.text stageId)
    && entry.payload.field? "is_correct" == some (.bool false)

theorem action?_eq_none {entry : LogEntry} (h : entry.kind ≠ .transition) :
    entry.action? = none := if_neg h

theorem isMiss_eq_false {entry : LogEntry} {stageId : String} (h : entry.kind ≠ .submitStage) :
    entry.isMiss stageId = false := by
  simp [isMiss, h]

/-- A submission is noted with its stage and its correctness. -/
theorem isMiss_submission (now : Int) (traversal : Traversal) (option : StageOption)
    (action : Action) (stageId : String) :
    (ofEvent now (traversal.submission option action)).isMiss stageId
      = (traversal.current.id == stageId && !traversal.current.isCorrect option) := by
  have hstage : (ofEvent now (traversal.submission option action)).payload.field? "stage"
      = some (.text traversal.current.id) := rfl
  have hcorrect : (ofEvent now (traversal.submission option action)).payload.field? "is_correct"
      = some (.bool (traversal.current.isCorrect option)) := rfl
  have hkind : (ofEvent now (traversal.submission option action)).kind = .submitStage := rfl
  rw [isMiss, hkind, hstage, hcorrect, Bool.eq_iff_iff]
  simp

end LogEntry

/-! ## Accounts -/

/-- Where a traversal is, how it came there, and how it ended. -/
structure Account where
  current : String
  history : List String
  completion : Option Completion
deriving DecidableEq, Repr

namespace Account

/-- A traversal that has not left the entry of a flow. -/
def start (flow : Flow) : Account := ⟨flow.entry, [], none⟩

/-- What there is to tell about a traversal. -/
def ofTraversal (traversal : Traversal) : Account :=
  ⟨traversal.current.id, traversal.history, traversal.completion⟩

/-- A move to a stage of the flow. There is no move to anything else. -/
def moveTo (flow : Flow) (account : Account) (target : String) : Account :=
  if target ∈ flow.stageIds then
    { account with current := target, history := account.history ++ [account.current] }
  else account

/-- An exit where the account is. It is correct if the outcome is a pass. -/
def endWith (account : Account) (outcome : Option Outcome) : Account :=
  let completion : Completion :=
    ⟨outcome == some .pass, account.history ++ [account.current], account.current⟩
  { account with completion := some completion }

/-- What an action comes to. -/
def follow (flow : Flow) (account : Account) : Action → Account
  | .loop => account
  | .goto target => account.moveTo flow target
  | .branch target => account.moveTo flow target
  | .exit outcome => account.endWith outcome

/-- What an entry comes to, which is nothing unless it tells of an action. -/
def read (flow : Flow) (account : Account) (entry : LogEntry) : Account :=
  match entry.action? with
  | some action => account.follow flow action
  | none => account

/-- What a journal comes to. -/
def ofLog (flow : Flow) (log : List LogEntry) : Account := log.foldl (read flow) (start flow)

variable {flow : Flow} {account : Account}

theorem ofLog_snoc (log : List LogEntry) (entry : LogEntry) :
    ofLog flow (log ++ [entry]) = (ofLog flow log).read flow entry := by
  simp [ofLog]

theorem follow_of_target? {action : Action} {target : String}
    (h : action.target? = some target) : account.follow flow action = account.moveTo flow target := by
  cases action <;> cases h <;> rfl

theorem read_of_action? {entry : LogEntry} {action : Action} (h : entry.action? = some action) :
    account.read flow entry = account.follow flow action := by
  simp only [read, h]

theorem read_of_action?_none {entry : LogEntry} (h : entry.action? = none) :
    account.read flow entry = account := by
  simp only [read, h]

end Account

/-! ## Proposals as they are written down -/

theorem Action.schema_toJson (action : Action) : Action.schema action.toJson = .accepted action :=
  (Action.recovers action).accepted .full

namespace Proposal

/-- The action that was handed over, if it was one. -/
def action? : Proposal → Option Action
  | .action step => some step
  | .other _ _ => none

/-- What is written down of a proposal is not mistaken for another action. -/
def IsFaithful (proposal : Proposal) : Prop :=
  ∀ action, Action.schema proposal.toJson = .accepted action → proposal = .action action

theorem isFaithful_action (action : Action) : IsFaithful (.action action) := by
  intro action' haccepted
  rw [toJson, Action.schema_toJson] at haccepted
  cases haccepted
  rfl

/-- Prompts have no tag that could be mistaken. -/
theorem isFaithful_ofPrompt (prompt : Prompt) : (ofPrompt prompt).IsFaithful := by
  intro action haccepted
  have huntagged : Action.schema prompt.toJson
      = .reject "Unable to extract tag using discriminator 'type'" := rfl
  rw [ofPrompt, toJson, huntagged] at haccepted
  cases haccepted

/-- A transition is read back as the action that was handed over. -/
theorem action?_transition {proposal : Proposal} (h : proposal.IsFaithful) (now : Int)
    (traversal : Traversal) :
    (LogEntry.ofEvent now (traversal.transition proposal)).action? = proposal.action? := by
  have hfield : (LogEntry.ofEvent now (traversal.transition proposal)).payload.field? "action"
      = some proposal.toJson := rfl
  have hkind : (LogEntry.ofEvent now (traversal.transition proposal)).kind = .transition := rfl
  rw [LogEntry.action?, if_pos hkind, hfield, Option.bind_some]
  cases hread : Action.schema proposal.toJson with
  | accepted action =>
    -- what reads like an action is this action
    rw [h action hread]
    rfl
  | rejected first others =>
    cases proposal with
    | action action =>
      rw [toJson, Action.schema_toJson] at hread
      cases hread
    | other content description => rfl

end Proposal

/-! ## Journals in step with a traversal -/

/-- Every transition of a journal was noted with the stage at which the account of the entries
before it arrives. -/
def Origins (flow : Flow) (log : List LogEntry) : Prop :=
  ∀ before entry after, log = before ++ entry :: after → entry.kind = .transition →
    entry.payload.field? "from" = some (.text (Account.ofLog flow before).current)

theorem Origins.snoc {flow : Flow} {log : List LogEntry} {entry : LogEntry} (h : Origins flow log)
    (hentry : entry.kind = .transition →
      entry.payload.field? "from" = some (.text (Account.ofLog flow log).current)) :
    Origins flow (log ++ [entry]) := by
  intro before entry' after hlog hkind
  -- either this is the entry that was appended, or it was there before
  rcases List.eq_nil_or_concat after with rfl | ⟨rest, last, rfl⟩
  · obtain ⟨rfl, hlast⟩ := List.append_inj' hlog rfl
    cases hlast
    exact hentry hkind
  · rw [List.concat_eq_append, ← List.cons_append, ← List.append_assoc] at hlog
    obtain ⟨hinit, -⟩ := List.append_inj' hlog rfl
    exact h before entry' rest hinit hkind

/-- A journal that tells everything about a traversal of a flow. -/
structure Recounts (flow : Flow) (log : List LogEntry) (traversal : Traversal) : Prop where
  flow_eq : traversal.flow = flow
  stage?_current : flow.stage? traversal.current.id = some traversal.current
  account_eq : Account.ofLog flow log = .ofTraversal traversal
  origins : Origins flow log

namespace Recounts

variable {flow : Flow} {log entries : List LogEntry} {traversal after : Traversal}

theorem start (h : Traversal.start? flow = .ok traversal) : Recounts flow [] traversal := by
  obtain ⟨stage, hstage, rfl⟩ := Traversal.start?_eq_ok.mp h
  have hid : stage.id = flow.entry := (mem_and_id_of_stage? hstage).2
  refine ⟨rfl, ?_, ?_, ?_⟩
  · rw [hid]
    exact hstage
  · simp [Account.ofLog, Account.start, Account.ofTraversal, hid]
  · intro before entry rest hlog
    simp at hlog

/-- An entry that is no transition makes no difference. -/
theorem observe_one {entry : LogEntry} (h : Recounts flow log traversal)
    (hkind : entry.kind ≠ .transition) : Recounts flow (log ++ [entry]) traversal := by
  refine ⟨h.flow_eq, h.stage?_current, ?_, h.origins.snoc fun hkind' => absurd hkind' hkind⟩
  rw [Account.ofLog_snoc, Account.read_of_action?_none (LogEntry.action?_eq_none hkind)]
  exact h.account_eq

theorem observe (h : Recounts flow log traversal)
    (hentries : ∀ entry ∈ entries, entry.kind ≠ .transition) :
    Recounts flow (log ++ entries) traversal := by
  induction entries generalizing log with
  | nil => simpa using h
  | cons entry rest ih =>
    have hkind : entry.kind ≠ .transition := hentries entry (List.mem_cons_self ..)
    rw [List.append_cons]
    exact ih (h.observe_one hkind) fun entry' hentry =>
      hentries entry' (List.mem_cons_of_mem _ hentry)

/-- Carrying something out and noting it keeps the journal in step, also where it fails. -/
theorem step {proposal : Proposal} {answer : Except TraversalError (Option Completion)}
    (h : Recounts flow log traversal) (hstep : traversal.Step proposal after answer)
    (hfaithful : proposal.IsFaithful) (now : Int) :
    Recounts flow (log ++ [.ofEvent now (traversal.transition proposal)]) after := by
  have horigins : Origins flow (log ++ [.ofEvent now (traversal.transition proposal)]) := by
    refine h.origins.snoc fun _ => ?_
    rw [h.account_eq]
    rfl
  have hread := Proposal.action?_transition hfaithful now traversal
  have haccount : Account.ofLog flow (log ++ [.ofEvent now (traversal.transition proposal)])
      = (Account.ofTraversal traversal).read flow
        (.ofEvent now (traversal.transition proposal)) := by
    rw [Account.ofLog_snoc, h.account_eq]
  -- one case for everything that can come of it
  cases hstep with
  | stay =>
    refine ⟨h.flow_eq, h.stage?_current, ?_, horigins⟩
    rw [haccount, Account.read_of_action? hread]
    rfl
  | @move action target stage htarget hstage =>
    -- the account finds the target among the stages, as the traversal did
    rw [h.flow_eq] at hstage
    obtain ⟨hmem, hid⟩ := mem_and_id_of_stage? hstage
    have hknown : target ∈ flow.stageIds := List.mem_map.mpr ⟨stage, hmem, hid⟩
    refine ⟨h.flow_eq, ?_, ?_, horigins⟩
    · rw [hid]
      exact hstage
    · rw [haccount, Account.read_of_action? hread, Account.follow_of_target? htarget,
        Account.moveTo, if_pos hknown, ← hid]
      rfl
  | @lost action target htarget hstage =>
    -- neither finds it, so the account leaves the entry out
    rw [h.flow_eq] at hstage
    have hunknown : target ∉ flow.stageIds := stage?_eq_none.mp hstage
    refine ⟨h.flow_eq, h.stage?_current, ?_, horigins⟩
    rw [haccount, Account.read_of_action? hread, Account.follow_of_target? htarget,
      Account.moveTo, if_neg hunknown]
  | leave outcome =>
    refine ⟨h.flow_eq, h.stage?_current, ?_, horigins⟩
    rw [haccount, Account.read_of_action? hread]
    rfl
  | unsupported content description =>
    refine ⟨h.flow_eq, h.stage?_current, ?_, horigins⟩
    rw [haccount, Account.read_of_action?_none hread]

end Recounts

/-! ## Walks -/

namespace Walk

variable {flow : Flow} {walk : Walk}

/-- A walk whose journal tells everything about its traversal. -/
def Recounted (flow : Flow) (walk : Walk) : Prop :=
  ∃ log, walk.journal = some log ∧ Recounts flow log walk.traversal

theorem recounted_start {clock : Clock} (h : start? flow true clock = .ok walk) :
    Recounted flow walk := by
  unfold start? at h
  cases hstart : Traversal.start? flow with
  | error error =>
    rw [hstart] at h
    cases h
  | ok traversal =>
    rw [hstart] at h
    cases h
    exact ⟨[], rfl, Recounts.start hstart⟩

theorem recounted_note (h : Recounted flow walk) {event : Event}
    (hkind : event.kind ≠ .transition) : Recounted flow (walk.note event) := by
  obtain ⟨log, hjournal, hrecounts⟩ := h
  refine ⟨log ++ [.ofEvent (walk.clock.reading 0) event], ?_, ?_⟩
  · rw [journal_note, hjournal, Option.map_some]
  · rw [traversal_note]
    exact hrecounts.observe_one hkind

theorem recounted_select (h : Recounted flow walk) (optionId : String) :
    Recounted flow (walk.select optionId).1 := by
  unfold select
  cases hselect : walk.traversal.select optionId with
  | error error => exact h
  | ok event =>
    rw [Traversal.select_eq_ok hselect]
    exact recounted_note h nofun

theorem recounted_submit (h : Recounted flow walk) (optionId : String) :
    Recounted flow (walk.submit optionId).1 := by
  unfold submit
  cases hsubmit : walk.traversal.submit optionId with
  | error error => exact h
  | ok submitted =>
    obtain ⟨-, -, -, hevent⟩ := Traversal.submit_eq_ok.mp hsubmit
    have hkind : submitted.event.kind ≠ .transition := by
      rw [hevent]
      exact nofun
    exact recounted_note h hkind

theorem recounted_apply (h : Recounted flow walk) {proposal : Proposal}
    (hfaithful : proposal.IsFaithful) : Recounted flow (walk.apply proposal).1 := by
  obtain ⟨log, hjournal, hrecounts⟩ := h
  cases hcompletion : walk.traversal.completion with
  | some completion =>
    rw [apply_of_ended hcompletion]
    exact ⟨log, hjournal, hrecounts⟩
  | none =>
    have hstep := walk.traversal.step_carryOut proposal
    rw [apply_of_active hcompletion]
    refine ⟨log ++ [.ofEvent (walk.clock.reading 0) (walk.traversal.transition proposal)], ?_, ?_⟩
    · rw [journal_note, hjournal, Option.map_some]
    · rw [traversal_note]
      exact hrecounts.step hstep hfaithful _

theorem recounted_answer (h : Recounted flow walk) (optionId : String) :
    Recounted flow (walk.answer optionId).1 := by
  have hsubmit := recounted_submit h optionId
  unfold answer
  split
  · next submitted action heq =>
    rw [heq] at hsubmit
    exact recounted_apply hsubmit (Proposal.isFaithful_action action)
  · next submitted error heq =>
    rw [heq] at hsubmit
    exact hsubmit

theorem recounted_perform (h : Recounted flow walk) {call : WalkCall}
    (hfaithful : ∀ proposal, call = .apply proposal → proposal.IsFaithful) :
    Recounted flow (walk.perform call).1 := by
  cases call with
  | select optionId => exact recounted_select h optionId
  | submit optionId => exact recounted_submit h optionId
  | apply proposal => exact recounted_apply h (hfaithful proposal rfl)
  | applyFieldless kind => exact h
  | answer optionId => exact recounted_answer h optionId
  | advance milliseconds => exact h

theorem recounted_run (h : Recounted flow walk) {calls : List WalkCall}
    (hfaithful : ∀ proposal, .apply proposal ∈ calls → proposal.IsFaithful) :
    Recounted flow (walk.run calls).1 := by
  induction calls generalizing walk with
  | nil => exact h
  | cons call rest ih =>
    have hnext : Recounted flow (walk.perform call).1 :=
      recounted_perform h fun proposal hcall => hfaithful proposal (by simp [hcall])
    exact ih hnext fun proposal hmem => hfaithful proposal (List.mem_cons_of_mem _ hmem)

end Walk

/-! ## Sessions -/

namespace Session

variable {flow : Flow} {session : Session}

/-- Nothing that happens on its own is written into the journal by hand. -/
def HandsOff (calls : List SessionCall) : Prop :=
  ∀ kind payload, .log kind payload ∈ calls →
    kind ≠ .text EventKind.transition.word ∧ kind ≠ .text EventKind.submitStage.word

/-- A session whose journal tells everything about its traversal and its incorrect submissions. -/
structure Recounted (flow : Flow) (session : Session) : Prop where
  recounts : Recounts flow session.log session.traversal
  attempts_eq : ∀ stageId, session.attempts stageId
    = session.log.countP (LogEntry.isMiss stageId)

theorem recounted_start (h : Begins flow session) : Recounted flow session where
  recounts := by
    obtain ⟨clock, hlog⟩ := h.exists_log_eq
    rw [hlog, ← List.nil_append [LogEntry.ofEvent _ _, _]]
    refine (Recounts.start h.traversal_eq).observe fun entry hentry => ?_
    simp only [List.mem_cons, List.not_mem_nil, or_false] at hentry
    rcases hentry with rfl | rfl <;> exact nofun
  attempts_eq := by
    intro stageId
    obtain ⟨clock, hlog⟩ := h.exists_log_eq
    rw [attempts, h.misses_eq, hlog]
    rfl

/-- Calls other than accepted submissions write nothing that the account or the count reads. -/
theorem recounted_of_adds {call : SessionCall} {after : Session} (h : Recounted flow session)
    (hadds : Adds call.Writes session after) (hhands : HandsOff [call]) :
    Recounted flow after := by
  obtain ⟨entries, hobserves, hwrites⟩ := hadds
  -- what a call writes on its own is of other kinds, and what is written by hand must be
  have hkinds : ∀ entry ∈ entries, entry.kind ≠ .transition ∧ entry.kind ≠ .submitStage := by
    intro entry hentry
    have hwrite := hwrites entry hentry
    cases call with
    | select optionId => rw [show entry.kind = _ from hwrite]; exact ⟨nofun, nofun⟩
    | emit event detail => rcases hwrite with hkind | hkind <;> rw [hkind] <;> exact ⟨nofun, nofun⟩
    | log kind payload =>
      obtain ⟨htransition, hsubmit⟩ := hhands kind payload (List.mem_singleton_self _)
      constructor
      · intro hkind
        exact htransition (hkind ▸ hwrite)
      · intro hkind
        exact hsubmit (hkind ▸ hwrite)
    | recapture => rw [show entry.kind = _ from hwrite]; exact ⟨nofun, nofun⟩
    | submit optionId => cases hwrite
    | advance milliseconds => cases hwrite
    | leave => cases hwrite
    | abort => cases hwrite
  constructor
  · rw [hobserves.log_eq, hobserves.traversal_eq]
    exact h.recounts.observe fun entry hentry => (hkinds entry hentry).1
  · intro stageId
    have hnone : entries.countP (LogEntry.isMiss stageId) = 0 := by
      rw [List.countP_eq_zero]
      intro entry hentry
      rw [LogEntry.isMiss_eq_false (hkinds entry hentry).2]
      exact nofun
    rw [attempts, hobserves.misses_eq, hobserves.log_eq, List.countP_append, hnone]
    exact h.attempts_eq stageId

theorem closing_kind {now : Int} {answer : Except TraversalError (Option Completion)}
    {entry : LogEntry} (h : entry ∈ closing now answer) : entry.kind = .submit := by
  unfold closing at h
  split at h
  · rw [List.mem_singleton.mp h]
    rfl
  · cases h
  · cases h

/-- Of the entries of an accepted submission, the first one tells whether it is a miss. -/
theorem countP_isMiss_answered (now later last : Int) (traversal : Traversal) (option : StageOption)
    (action : Action) (proposal : Proposal) (answer : Except TraversalError (Option Completion))
    (stageId : String) :
    (.ofEvent now (traversal.submission option action)
        :: .ofEvent later (traversal.transition proposal)
        :: closing last answer).countP (LogEntry.isMiss stageId)
      = if traversal.current.id == stageId && !traversal.current.isCorrect option then 1 else 0 := by
  have htransition :
      (LogEntry.ofEvent later (traversal.transition proposal)).isMiss stageId = false :=
    LogEntry.isMiss_eq_false nofun
  have hclosing : (closing last answer).countP (LogEntry.isMiss stageId) = 0 := by
    rw [List.countP_eq_zero]
    intro entry hentry
    rw [LogEntry.isMiss_eq_false (by rw [closing_kind hentry]; exact nofun)]
    exact nofun
  rw [List.countP_cons, List.countP_cons, hclosing, htransition, LogEntry.isMiss_submission,
    if_neg Bool.false_ne_true, Nat.zero_add]

/-- An accepted submission is noted, then its transition; what closes the journal is neither. -/
theorem recounted_of_answers {optionId : String} {submitted : Submitted}
    {answer : Except TraversalError (Option Completion)} {after : Session}
    (h : Recounted flow session) (hsubmit : session.traversal.submit optionId = .ok submitted)
    (hanswers : Answers session submitted answer after) : Recounted flow after := by
  obtain ⟨-, -, -, hevent⟩ := Traversal.submit_eq_ok.mp hsubmit
  have hlog := hanswers.log_eq
  rw [hevent] at hlog
  constructor
  · -- the submission, the transition and what closes the journal, one after the other
    rw [hlog, List.append_cons, List.append_cons]
    have hnoted : Recounts flow (session.log ++ [.ofEvent (session.clock.reading 0)
        (session.traversal.submission submitted.option submitted.action)]) session.traversal :=
      h.recounts.observe_one nofun
    have hmoved := hnoted.step hanswers.step (Proposal.isFaithful_action _)
      (session.clock.reading 1)
    refine hmoved.observe fun entry hentry => ?_
    rw [closing_kind hentry]
    exact nofun
  · intro stageId
    rw [hanswers.attempts_eq, h.attempts_eq, hlog, List.countP_append, countP_isMiss_answered]
    rfl

theorem recounted_perform {call : SessionCall} (h : Recounted flow session)
    (hhands : HandsOff [call]) : Recounted flow (session.perform call).1 := by
  rcases session.perform_cases call with hadds | ⟨optionId, submitted, answer, -, hsubmit, hanswers⟩
  · exact recounted_of_adds h hadds hhands
  · exact recounted_of_answers h hsubmit hanswers

theorem recounted_run {calls : List SessionCall} (h : Recounted flow session)
    (hhands : HandsOff calls) : Recounted flow (session.run calls).1 := by
  refine run_invariant (fun call hcall _ hrecounted => recounted_perform hrecounted ?_) h
  intro kind payload hmem
  rw [← List.mem_singleton.mp hmem] at hcall
  exact hhands kind payload hcall

end Session

/-- The journal determines the state. Of every walk on any flow that keeps a journal, and of every
session, at any time: following the transitions of the journal from the entry of the flow gives the
stage shown, the history and the completion, and each transition was noted with the stage at which
the account of the entries before it arrives. In the journal of a session, the incorrect submissions
on each stage are those that were counted. The operations may fail, and what is applied to a walk
need not be an action, as long as it does not read like one; in a session, entries of other kinds
may be written by hand. -/
theorem log_determines_state :
    (∀ (flow : Flow) (clock : Clock) (walk : Walk) (calls : List WalkCall),
      Walk.start? flow true clock = .ok walk →
      (∀ proposal, .apply proposal ∈ calls → proposal.IsFaithful) →
      ∃ log, (walk.run calls).1.journal = some log
        ∧ Recounts flow log (walk.run calls).1.traversal)
    ∧ ∀ (flow : Flow) (session : Session) (calls : List SessionCall),
      Session.Begins flow session → Session.HandsOff calls →
      Recounts flow (session.run calls).1.log (session.run calls).1.traversal
        ∧ ∀ stageId, (session.run calls).1.attempts stageId
          = (session.run calls).1.log.countP (LogEntry.isMiss stageId) := by
  constructor
  · intro flow clock walk calls hstart hfaithful
    exact Walk.recounted_run (Walk.recounted_start hstart) hfaithful
  · intro flow session calls hbegins hhands
    have hrecounted := Session.recounted_run (Session.recounted_start hbegins) hhands
    exact ⟨hrecounted.recounts, hrecounted.attempts_eq⟩

namespace Detour

/-- A flow made by hand, in which one option leads nowhere. -/
def lost : Flow := ⟨none, none, "ASK", [stage "ASK"
  [{ plain "a" with next := some (.goto "NOWHERE") }, { plain "b" with next := some .loop }] none]⟩

/-- A transition that fails, something that is no action, an exit, and a submission after it. -/
def walkCalls : List WalkCall :=
  [.answer "a", .apply (.ofPrompt ⟨"?", none, none⟩), .apply (.action (.exit (some .pass))),
    .submit "b"]

/-- Two incorrect submissions, the second of which fails, and an entry written by hand. -/
def sessionCalls : List SessionCall :=
  [.submit "b", .log (.text "click") .null, .submit "a"]

/-- Even where transitions fail, the journal tells everything. -/
theorem accounted :
    (∃ walk log, Walk.start? lost true (.still 0) = .ok walk
      ∧ (walk.run walkCalls).1.journal = some log
      ∧ Recounts lost log (walk.run walkCalls).1.traversal)
    ∧ ∃ session, Session.Begins lost session ∧ Session.HandsOff sessionCalls
      ∧ Recounts lost (session.run sessionCalls).1.log (session.run sessionCalls).1.traversal
      ∧ (session.run sessionCalls).1.attempts "ASK"
        = (session.run sessionCalls).1.log.countP (LogEntry.isMiss "ASK") := by
  constructor
  · have hfaithful : ∀ proposal, WalkCall.apply proposal ∈ walkCalls → proposal.IsFaithful := by
      intro proposal hmem
      simp only [walkCalls, List.mem_cons, List.not_mem_nil, reduceCtorEq, WalkCall.apply.injEq,
        false_or, or_false] at hmem
      rcases hmem with rfl | rfl
      · exact Proposal.isFaithful_ofPrompt _
      · exact Proposal.isFaithful_action _
    obtain ⟨log, hjournal, hrecounts⟩ :=
      log_determines_state.1 lost (.still 0) _ walkCalls rfl hfaithful
    exact ⟨_, log, rfl, hjournal, hrecounts⟩
  · have hhands : Session.HandsOff sessionCalls := by
      intro kind payload hmem
      simp only [sessionCalls, List.mem_cons, List.not_mem_nil, reduceCtorEq,
        SessionCall.log.injEq, false_or, or_false] at hmem
      rw [hmem.1]
      exact ⟨by decide, by decide⟩
    have hbegins : Session.Begins lost (Session.prepare .standard options .declarative
        (.declarative document) ⟨lost, lost.stages[0], [], none⟩).begin :=
      ⟨_, _, _, _, _, rfl, rfl⟩
    obtain ⟨hrecounts, hattempts⟩ := log_determines_state.2 lost _ sessionCalls hbegins hhands
    exact ⟨_, hbegins, hhands, hrecounts, hattempts "ASK"⟩

end Detour

end AdaptiveQuiz
