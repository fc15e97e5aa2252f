import AdaptiveQuiz.Proofs.Flow.Diagnostics

/-!
# Soundness of compilation

A flow that comes out of compilation can be walked through without surprises: it starts on one of
its stages, every option has an action that is complete and moves to a stage of the flow, if it
moves, and every stage can be reached. Both compilers end in the same checks, so one argument from
those checks covers both.

## Main definitions

* `Flow.Sound`: what can be relied on about a compiled flow

## Main statements

* `sound_of_finish`: what the last checks amount to
* `DeclarativeDocument.sound_of_compile`, `BranchingDocument.sound_of_compile`
-/

namespace AdaptiveQuiz

/-- An option with an action, which is no exit without outcome, and with a source of it. -/
def StageOption.Settled (option : StageOption) : Prop :=
  (∃ action, option.next = some action ∧ action ≠ .exit none) ∧ option.nextSource.isSome = true

/-- A flow that starts on one of its stages, that has an action on every option, which moves to
stages of the flow only, and each stage of which a chain of edges leads to from the entry. -/
structure Flow.Sound (flow : Flow) : Prop where
  entry_mem : flow.entry ∈ flow.stageIds
  stageIds_nodup : flow.stageIds.Nodup
  settled : ∀ stage ∈ flow.stages, ∀ option ∈ stage.options, option.Settled
  targets_mem : ∀ stage ∈ flow.stages, ∀ target ∈ stage.targets, target ∈ flow.stageIds
  leads : ∀ stage ∈ flow.stages, (StageMap.ofStages flow.stages).Leads flow.entry stage.id

/-! ## Settled options -/

theorem completed_ne_exit_none (correct : Bool) (action : Action) :
    action.completed correct ≠ .exit none := by
  cases action with
  | exit outcome => cases outcome <;> simp [Action.completed]
  | goto target => simp [Action.completed]
  | branch target => simp [Action.completed]
  | loop => simp [Action.completed]

theorem resolution_ne_exit_none (declared : List DeclarativeStage) (parent : Stage)
    (option : StageOption) : (resolution declared parent option).1 ≠ .exit none := by
  cases hnext : option.next with
  | some action =>
    rw [resolution_of_next hnext]
    exact completed_ne_exit_none _ action
  | none =>
    cases hclaim : claimant? declared (.ofCorrectness (parent.isCorrect option)) parent.id with
    | none =>
      rw [resolution_of_unclaimed hnext hclaim]
      cases parent.isCorrect option <;> simp
    | some target =>
      rw [resolution_of_claimant? hnext hclaim]
      simp

/-- Every option of a resolved stage is settled. -/
theorem settled_of_mem_resolved {declared : List DeclarativeStage} {stage : Stage}
    {option : StageOption} (h : option ∈ (stage.resolved declared).options) : option.Settled := by
  obtain ⟨original, -, rfl⟩ := List.mem_map.mp h
  exact ⟨⟨_, rfl, resolution_ne_exit_none declared stage original⟩, rfl⟩

/-! ## The last checks -/

/-- Where no stage is excused, the search reports nothing if and only if it finds every stage. -/
theorem unreachable_eq_nil {entry : String} {stages : List Stage} :
    unreachable entry stages [] = []
      ↔ ∀ stage ∈ stages, (StageMap.ofStages stages).Leads entry stage.id := by
  simp only [unreachable, List.map_eq_nil_iff, List.filter_eq_nil_iff, List.contains_nil,
    Bool.not_false, Bool.and_true, Bool.not_eq_true', Bool.not_eq_false, contains_reachableFrom,
    decide_eq_true_iff]

/-- If the last checks let settled stages pass, their flow is sound. -/
theorem sound_of_finish {itemId atomId : Option String} {entry : Except Finding String}
    {stages : List Stage} {findings : List Finding} {reported : List String} {flow : Flow}
    (hflow : (finish itemId atomId entry stages findings reported).flow = some flow)
    (hentry : ∀ id, entry = .ok id → id ∈ stages.map Stage.id)
    (hnodup : (stages.map Stage.id).Nodup)
    (hsettled : ∀ stage ∈ stages, ∀ option ∈ stage.options, option.Settled)
    (hreported : (∀ finding ∈ findings, finding.isError = false) → reported = []) :
    flow.Sound := by
  obtain ⟨hok, hparts, hclean⟩ := finish_flow_eq_some.mp hflow
  simp only [List.mem_append] at hclean
  have htargets : unknownTargets stages = [] :=
    eq_nil_of_isError (fun _ => isError_of_mem_unknownTargets)
      fun finding hmem => hclean finding (Or.inl (Or.inr hmem))
  have hunreachable : unreachable flow.entry stages [] = [] := by
    -- an excused stage would have been reported by an earlier pass
    rw [hreported fun finding hmem => hclean finding (Or.inl (Or.inl hmem))] at hclean
    exact eq_nil_of_isError (fun _ => isError_of_mem_unreachable)
      fun finding hmem => hclean finding (Or.inr hmem)
  have hstages : flow.stages = stages := by rw [hparts]
  constructor
  · rw [Flow.stageIds, hstages]
    exact hentry flow.entry hok
  · rw [Flow.stageIds, hstages]
    exact hnodup
  · rw [hstages]
    exact hsettled
  · rw [Flow.stageIds, hstages]
    exact unknownTargets_eq_nil.mp htargets
  · rw [hstages]
    exact unreachable_eq_nil.mp hunreachable

/-! ## Both kinds of documents -/

namespace DeclarativeDocument

variable {document : DeclarativeDocument}

/-- Whoever waits for something that is not a stage is reported for it. -/
theorem dangling_eq_nil (h : WellFormedStages document.authored)
    (hclean : ∀ finding ∈ document.wiring.findings, finding.isError = false) :
    document.wiring.dangling = [] := by
  rw [wiring_dangling h, List.map_eq_nil_iff, List.filter_eq_nil_iff]
  intro stage hstage hdangling
  rw [wiring_findings h] at hclean
  unfold DeclarativeStage.isDangling at hdangling
  split at hdangling
  · next trigger parentId hrule =>
    have habsent : stage? (document.stages.map fun stage => stage.toStage) parentId = none := by
      rw [stage?_eq_none, List.map_map]
      simpa using hdangling
    have hfinding : ruleFinding? document.stages stage
        = some (.missingDependency stage.id parentId) := by
      simp only [ruleFinding?, hrule, habsent]
    -- a missing dependency is an error
    have herror := hclean _ (List.mem_filterMap.mpr ⟨stage, hstage, hfinding⟩)
    cases herror
  · cases hdangling

theorem sound_of_compile {flow : Flow} (h : WellFormedStages document.authored)
    (hflow : document.compile.flow = some flow) : flow.Sound := by
  rw [compile_eq_finish] at hflow
  refine sound_of_finish hflow ?_ ?_ ?_ (dangling_eq_nil h)
  · intro id hid
    rw [ids_settled h]
    exact mem_of_entryOf_eq_ok hid
  · rw [ids_settled h, ← ids_authored]
    exact h.ids_nodup
  · rw [settled_eq_resolved h]
    intro stage hstage option hoption
    obtain ⟨declared, -, rfl⟩ := List.mem_map.mp hstage
    exact settled_of_mem_resolved hoption

theorem compile_flow_eq_none : document.compile.flow = none
    ↔ ∃ finding ∈ document.compile.findings, finding.isError = true := by
  rw [compile_eq_finish]
  exact finish_flow_eq_none fun _ => isError_of_entryOf_eq_error

end DeclarativeDocument

namespace BranchingDocument

variable {document : BranchingDocument}

/-- Without rules there is nothing but defaults to resolve. -/
theorem settled_eq_resolved : document.settled = document.stages.map (Stage.resolved []) := by
  refine List.map_congr_left fun stage _ => ?_
  rw [← Stage.settle_claimed_markExplicit, Stage.claimed_nil]

/-- All that is needed of the stages is that their ids differ. -/
theorem sound_of_nodup {flow : Flow} (h : (document.stages.map Stage.id).Nodup)
    (hflow : document.compile.flow = some flow) : flow.Sound := by
  rw [compile_eq_finish] at hflow
  refine sound_of_finish hflow ?_ ?_ ?_ (fun _ => rfl)
  · intro id hid
    rw [ids_settled]
    exact mem_of_entryOf_eq_ok hid
  · rw [ids_settled]
    exact h
  · rw [settled_eq_resolved]
    intro stage hstage option hoption
    obtain ⟨original, -, rfl⟩ := List.mem_map.mp hstage
    exact settled_of_mem_resolved hoption

theorem sound_of_compile {flow : Flow} (h : WellFormedStages document.stages)
    (hflow : document.compile.flow = some flow) : flow.Sound :=
  sound_of_nodup h.ids_nodup hflow

theorem compile_flow_eq_none : document.compile.flow = none
    ↔ ∃ finding ∈ document.compile.findings, finding.isError = true := by
  rw [compile_eq_finish]
  exact finish_flow_eq_none fun _ => isError_of_entryOf_eq_error

end BranchingDocument

/-! ## All accepted documents -/

/-- Compilation is sound: of every accepted document of either kind there is a flow exactly if no
error is found, and the flow is sound and has the stages of the document in their order. -/
theorem compilation_sound :
    (∀ raw document, DeclarativeDocument.schema raw = .accepted document →
      (document.compile.flow = none
        ↔ ∃ finding ∈ document.compile.findings, finding.isError = true)
      ∧ ∀ flow, document.compile.flow = some flow →
        flow.Sound ∧ flow.stageIds = document.stages.map fun stage => stage.id)
    ∧ ∀ raw document, BranchingDocument.schema raw = .accepted document →
      (document.compile.flow = none
        ↔ ∃ finding ∈ document.compile.findings, finding.isError = true)
      ∧ ∀ flow, document.compile.flow = some flow →
        flow.Sound ∧ flow.stageIds = document.stages.map Stage.id := by
  constructor
  · intro raw document haccepted
    have hstages := DeclarativeDocument.wellFormed_of_schema haccepted
    refine ⟨DeclarativeDocument.compile_flow_eq_none, fun flow hflow => ?_⟩
    exact ⟨DeclarativeDocument.sound_of_compile hstages hflow,
      DeclarativeDocument.stageIds_of_compile hstages hflow⟩
  · intro raw document haccepted
    have hstages := BranchingDocument.wellFormed_of_schema haccepted
    refine ⟨BranchingDocument.compile_flow_eq_none, fun flow hflow => ?_⟩
    refine ⟨BranchingDocument.sound_of_compile hstages hflow, ?_⟩
    rw [(BranchingDocument.flow_eq_of_compile hflow).2]
    exact document.ids_settled

namespace Detour

/-- A question with explicit actions that lead back and forth between two stages, as authored. -/
def rawCycle : Json :=
  .object [("flow", .object [("entry_stage_id", .text "ASK")]), ("stages", .array [
    rawStage "ASK" [rawOption "a" [("next", .object [("type", .text "exit")])],
      rawOption "b" [("next", .object [("type", .text "branch"), ("target", .text "TRY")])]] [],
    rawStage "TRY" [rawOption "a" [],
      rawOption "b" [("next", .object [("type", .text "goto_stage"), ("target", .text "ASK")])]]
      []])]

/-- The question with a cycle as it is read. -/
def cycle : BranchingDocument where
  itemId := none
  atomId := none
  settings := ⟨"ASK", none⟩
  stages := [
    stage "ASK" [{ plain "a" with next := some (.exit none) },
      { plain "b" with next := some (.branch "TRY") }] none,
    stage "TRY" [plain "a", { plain "b" with next := some (.goto "ASK") }] none]

theorem schema_rawCycle : BranchingDocument.schema rawCycle = .accepted cycle := by decide

/-- The question with a detour and the question with a cycle both have a sound flow. -/
theorem sound :
    (∃ flow, document.compile.flow = some flow ∧ flow.Sound
      ∧ flow.stageIds = ["ASK", "TRY", "AGAIN", "LAST"])
    ∧ ∃ flow, cycle.compile.flow = some flow ∧ flow.Sound ∧ flow.stageIds = ["ASK", "TRY"] := by
  constructor
  · have hsome : document.compile.flow.isSome = true := by decide
    obtain ⟨flow, hflow⟩ := Option.isSome_iff_exists.mp hsome
    exact ⟨flow, hflow, (compilation_sound.1 raw document schema_raw).2 flow hflow⟩
  · have hsome : cycle.compile.flow.isSome = true := by decide
    obtain ⟨flow, hflow⟩ := Option.isSome_iff_exists.mp hsome
    exact ⟨flow, hflow, (compilation_sound.2 rawCycle cycle schema_rawCycle).2 flow hflow⟩

end Detour

end AdaptiveQuiz
