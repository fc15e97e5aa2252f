import AdaptiveQuiz.Proofs.Flow.DependencyTree
import AdaptiveQuiz.Proofs.Session.Safety

/-!
# Runs of questions without authored actions

Where all edges come from unlock rules, a learner goes down the tree of the dependencies: whoever
leaves a stage leaves it to one of its children, and the only way out is a pass. Remediation that is
held back makes no difference to this, since the learner stays where he is.

## Main definitions

* `Traversal.Follows`: a traversal that came down the steps of its flow

## Main statements

* `Traversal.Follows.step`: what the options of a stage lead to keeps to the steps
* `Session.follows_run`: so does a whole run
* `DeclarativeDocument.runs_follow_dependencies`
-/

namespace AdaptiveQuiz

namespace Traversal

variable {flow : Flow} {traversal after : Traversal} {action : Action}
  {answer : Except TraversalError (Option Completion)}

/-- The stages left before and the stage shown. -/
def path (traversal : Traversal) : List String := traversal.history ++ [traversal.current.id]

/-- A traversal that came from the entry of a flow by its steps, and passed if it ended. -/
structure Follows (flow : Flow) (traversal : Traversal) : Prop where
  flow_eq : traversal.flow = flow
  current_mem : traversal.current ∈ flow.stages
  head?_path : traversal.path.head? = some flow.entry
  isChain_path : traversal.path.IsChain flow.Goto
  passed : ∀ completion, traversal.completion = some completion → completion.isCorrect = true

namespace Follows

theorem start (h : Traversal.start? flow = .ok traversal) : Follows flow traversal := by
  obtain ⟨stage, hstage, rfl⟩ := Traversal.start?_eq_ok.mp h
  obtain ⟨hmem, hid⟩ := mem_and_id_of_stage? hstage
  refine ⟨rfl, hmem, ?_, ?_, nofun⟩
  · simp [path, hid]
  · simp [path]

theorem onCourse (h : Follows flow traversal) (hsound : flow.Sound) : traversal.OnCourse := by
  obtain ⟨hflow, hmem, -, -, -⟩ := h
  rw [← hflow] at hsound hmem
  exact ⟨hsound, hmem⟩

/-- A move to a stage appends it to the path. -/
theorem move {stage : Stage} (h : Follows flow traversal) (hstage : stage ∈ flow.stages)
    (hgoto : flow.Goto traversal.current.id stage.id) :
    Follows flow { traversal with
      current := stage, history := traversal.history ++ [traversal.current.id] } := by
  have hpath : path { traversal with
      current := stage, history := traversal.history ++ [traversal.current.id] }
        = traversal.path ++ [stage.id] := rfl
  refine ⟨h.flow_eq, hstage, ?_, ?_, h.passed⟩
  · rw [hpath, List.head?_append, h.head?_path]
    rfl
  · -- the step taken joins the path so far to the new stage
    rw [hpath]
    refine h.isChain_path.append (List.isChain_singleton _) ?_
    intro last hlast next hnext
    rw [path, List.getLast?_concat] at hlast
    cases hlast
    cases hnext
    exact hgoto

/-- What a loop, a pass or a step of the flow leads to keeps to the steps. -/
theorem step (h : Follows flow traversal) (hstep : traversal.Step (.action action) after answer)
    (haction : action = .loop ∨ action = .exit (some .pass)
      ∨ ∃ target, action = .goto target ∧ flow.Goto traversal.current.id target) :
    Follows flow after := by
  rcases haction with rfl | rfl | ⟨target, rfl, hgoto⟩
  · cases hstep with
    | stay => exact h
    | move htarget => cases htarget
    | lost htarget => cases htarget
  · cases hstep with
    | leave => exact ⟨h.flow_eq, h.current_mem, h.head?_path, h.isChain_path, by rintro _ ⟨⟩; rfl⟩
    | move htarget => cases htarget
    | lost htarget => cases htarget
  · cases hstep with
    | move htarget hstage =>
      cases htarget
      rw [h.flow_eq] at hstage
      obtain ⟨hmem, hid⟩ := mem_and_id_of_stage? hstage
      rw [← hid] at hgoto
      exact h.move hmem hgoto
    | lost => exact h

end Follows

end Traversal

namespace DeclarativeDocument

variable {document : DeclarativeDocument} {flow : Flow}

/-- An option of a stage leads down a step, keeps the learner, or lets him pass. -/
theorem action_cases (h : WellFormedStages document.authored) (hpure : document.IsPure)
    (hflow : document.compile.flow = some flow) {stage : Stage} (hstage : stage ∈ flow.stages)
    {option : StageOption} (hoption : option ∈ stage.options) {action : Action}
    (hnext : option.next = some action) :
    action = .loop ∨ action = .exit (some .pass)
      ∨ ∃ target, action = .goto target ∧ flow.Goto stage.id target := by
  rcases option_cases h hpure hflow hstage hoption with
    ⟨_, target, -, hgoto, -⟩ | ⟨-, hpass | hloop⟩
  · rw [hnext, Option.some.injEq] at hgoto
    rw [hgoto] at hnext
    exact Or.inr (Or.inr ⟨target, hgoto, stage, hstage, rfl, option, hoption, hnext⟩)
  · rw [hnext, Option.some.injEq] at hpass
    exact Or.inr (Or.inl hpass)
  · rw [hnext, Option.some.injEq] at hloop
    exact Or.inl hloop

end DeclarativeDocument

namespace Session

variable {document : DeclarativeDocument} {flow : Flow} {session : Session}

/-- A session whose traversal came down the steps of a flow, and whose result is right if there is
one. -/
structure Follows (flow : Flow) (session : Session) : Prop where
  traversal : Traversal.Follows flow session.traversal
  passed : ∀ result, session.result = some result →
    result.isCorrect = true ∧ result.completion.isCorrect = true

theorem follows_begin (h : Begins flow session) : Follows flow session where
  traversal := Traversal.Follows.start h.traversal_eq
  passed := by
    intro result hresult
    rw [h.result_eq] at hresult
    cases hresult

theorem follows_perform (h : WellFormedStages document.authored) (hpure : document.IsPure)
    (hflow : document.compile.flow = some flow) (hfollows : Follows flow session)
    (call : SessionCall) : Follows flow (session.perform call).1 := by
  rcases session.perform_cases call with
    ⟨entries, hobserves, -⟩ | ⟨optionId, submitted, answer, -, hsubmit, hanswers⟩
  · constructor
    · rw [hobserves.traversal_eq]
      exact hfollows.traversal
    · rw [hobserves.result_eq]
      exact hfollows.passed
  · obtain ⟨-, hoption, hnext, -⟩ := Traversal.submit_eq_ok.mp hsubmit
    have hmem : submitted.option ∈ session.traversal.current.options :=
      (Traversal.mem_and_id_of_option? hoption).1
    have hcases := DeclarativeDocument.action_cases h hpure hflow
      hfollows.traversal.current_mem hmem hnext
    have htaken : session.taken submitted = .loop ∨ session.taken submitted = .exit (some .pass)
        ∨ ∃ target, session.taken submitted = .goto target
          ∧ flow.Goto session.traversal.current.id target := by
      rcases session.taken_eq submitted with heq | heq
      · rw [heq]
        exact hcases
      · -- held back, the learner stays
        exact Or.inl heq
    have hmoved := hfollows.traversal.step hanswers.step htaken
    refine ⟨hmoved, ?_⟩
    intro result hresult
    -- a result is there since this submission or since before
    by_cases hended : ∃ completion, answer = .ok (some completion)
    · obtain ⟨completion, rfl⟩ := hended
      obtain ⟨result', hresult', hsame, hcorrect⟩ := hanswers.result_of_ended completion rfl
      rw [hresult', Option.some.injEq] at hresult
      have hpassed := hmoved.passed completion hanswers.step.completion_eq
      rw [← hresult, hcorrect, hsame]
      exact ⟨hpassed, hpassed⟩
    · have hkept := hanswers.result_of_active fun completion heq => hended ⟨completion, heq⟩
      rw [hkept] at hresult
      exact hfollows.passed result hresult

theorem follows_run (h : WellFormedStages document.authored) (hpure : document.IsPure)
    (hflow : document.compile.flow = some flow) (hfollows : Follows flow session)
    (calls : List SessionCall) : Follows flow (session.run calls).1 :=
  run_invariant (fun call _ _ hsession => follows_perform h hpure hflow hsession call) hfollows

end Session

/-- Of a compiled document without authored actions, the steps of the flow are the dependencies of
the stages other than the entry. They make a tree that is rooted at the entry, and for each trigger
a stage has at most one child, the one whose rule waits for this trigger. So whatever is done in a
session on the flow, the history and the stage shown are a chain of dependencies from the entry that
meets no stage twice, and if the question is completed, it is passed. -/
theorem DeclarativeDocument.runs_follow_dependencies {raw : Json} {document : DeclarativeDocument}
    {flow : Flow} (haccepted : DeclarativeDocument.schema raw = .accepted document)
    (hpure : document.IsPure) (hflow : document.compile.flow = some flow) :
    (∀ parent child, flow.Goto parent child ↔ ∃ stage ∈ document.stages, stage.id = child
      ∧ stage.id ≠ flow.entry ∧ stage.dependsOn? = some parent)
    ∧ IsRootedTree flow.stageIds flow.Goto flow.entry
    ∧ (∀ (trigger : Trigger) (parent child : String), flow.GotoBy trigger.source parent child
      ↔ ∃ stage ∈ document.stages, stage.id = child
        ∧ stage.unlock = some (.after trigger parent))
    ∧ (∀ (trigger : Trigger) (parent child other : String),
      flow.GotoBy trigger.source parent child → flow.GotoBy trigger.source parent other →
      child = other)
    ∧ ∀ (session : Session) (calls : List SessionCall), Session.Begins flow session →
      let now := (session.run calls).1
      now.traversal.path.head? = some flow.entry
      ∧ now.traversal.path.IsChain document.IsDependency
      ∧ now.traversal.path.Nodup
      ∧ (∀ completion, now.traversal.completion = some completion → completion.isCorrect = true)
      ∧ ∀ result, now.result = some result →
        result.isCorrect = true ∧ result.completion.isCorrect = true := by
  have hstages : WellFormedStages document.authored := wellFormed_of_schema haccepted
  have htree := isRootedTree hstages hpure hflow
  refine ⟨fun _ _ => goto_iff hstages hpure hflow, htree,
    fun _ _ _ => gotoBy_iff hstages hpure hflow,
    fun _ _ _ _ => gotoBy_unique hstages hpure hflow, ?_⟩
  intro session calls hbegins now
  have hfollows : Session.Follows flow now :=
    Session.follows_run hstages hpure hflow (Session.follows_begin hbegins) calls
  have hchain := hfollows.traversal.isChain_path
  refine ⟨hfollows.traversal.head?_path, ?_, htree.nodup_of_isChain hchain,
    hfollows.traversal.passed, hfollows.passed⟩
  refine hchain.imp fun parent child hgoto => ?_
  obtain ⟨stage, hstage, hid, -, hdepends⟩ := (goto_iff hstages hpure hflow).mp hgoto
  exact ⟨stage, hstage, hid, hdepends⟩

namespace Detour

/-- A question whose edges all come from rules: remediation with a stage of its own after it. -/
def rawLadder : Json :=
  let rule (condition parent : String) : Fields := [("unlock_logic",
    .object [("show_when", .text condition), ("depends_on_stage_id", .text parent)])]
  let options : List Json := [rawOption "a" [("is_correct", .bool true)], rawOption "b" []]
  .object [("stages", .array [rawStage "ASK" options [],
    rawStage "TRY" options (rule "after_stage_attempts_exceeded" "ASK"),
    rawStage "AGAIN" options (rule "after_stage_correct" "TRY"),
    rawStage "LAST" options (rule "after_stage_correct" "ASK")])]

/-- The question as it is read. -/
def ladder : DeclarativeDocument where
  itemId := none
  atomId := none
  difficulty := none
  contextTags := []
  stages :=
    let options : List StageOption := [{ plain "a" with isCorrect := some true }, plain "b"]
    [⟨stage "ASK" options none, none⟩,
      ⟨stage "TRY" options none, some (.after .attemptsExceeded "ASK")⟩,
      ⟨stage "AGAIN" options none, some (.after .correct "TRY")⟩,
      ⟨stage "LAST" options none, some (.after .correct "ASK")⟩]

theorem schema_rawLadder : DeclarativeDocument.schema rawLadder = .accepted ladder := by decide

/-- A session on the question goes down the tree. -/
theorem descends : ladder.IsPure ∧ ∃ flow session, ladder.compile.flow = some flow
    ∧ Session.Begins flow session ∧ IsRootedTree flow.stageIds flow.Goto flow.entry
    ∧ (session.run [.submit "b", .submit "b", .submit "a"]).1.traversal.path.IsChain
      ladder.IsDependency
    ∧ (session.run [.submit "b", .submit "b", .submit "a"]).1.traversal.path.Nodup := by
  have hpure : ladder.IsPure := by
    unfold DeclarativeDocument.IsPure
    decide
  have hsome : (ladder.compile.flow.bind fun flow => (Traversal.start? flow).toOption).isSome
      = true := by decide
  obtain ⟨traversal, htraversal⟩ := Option.isSome_iff_exists.mp hsome
  obtain ⟨flow, hflow, hstart⟩ := Option.bind_eq_some_iff.mp htraversal
  have hstart' : Traversal.start? flow = .ok traversal := by
    cases hcase : Traversal.start? flow with
    | error error => rw [hcase] at hstart; cases hstart
    | ok traversal' => rw [hcase] at hstart; cases hstart; rfl
  have hbegins : Session.Begins flow (Session.prepare .standard options .declarative
      (.declarative ladder) traversal).begin := ⟨_, _, _, _, _, hstart', rfl⟩
  obtain ⟨-, htree, -, -, hruns⟩ :=
    DeclarativeDocument.runs_follow_dependencies schema_rawLadder hpure hflow
  obtain ⟨-, hchain, hnodup, -⟩ := hruns _ [.submit "b", .submit "b", .submit "a"] hbegins
  exact ⟨hpure, flow, _, hflow, hbegins, htree, hchain, hnodup⟩

end Detour

end AdaptiveQuiz
