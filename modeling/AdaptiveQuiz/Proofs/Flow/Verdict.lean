import AdaptiveQuiz.Proofs.Flow.Soundness

/-!
# The verdict on explicit actions

Where all actions are authored, no rule stands between the document and the flow, so what is found
can be said of the authored stages alone: whether the entry is one of them, which options move to
something that is none, and which stages no chain of authored moves leads to. The edges are checked
after the defaults were filled in; but a default moves nowhere, so the edges are the authored ones.
All of this is an error, and so there is a flow exactly if nothing is found.

A flow differs from its document in more than the actions that were missing: every option also notes
where its action is from.

## Main definitions

* `StageOption.filling`: the action that an option has in a flow, and the note
* `StageOption.defaulted`: the option with both
* `Stage.withoutActions`: a stage apart from the actions of its options

## Main statements

* `Stage.targets_resolved_nil`, `StageMap.leads_map`: defaults do not touch the edges
* `BranchingDocument.verdict_exact`
* `Detour.sources_noted`: the notes are a difference, too
-/

namespace AdaptiveQuiz

/-! ## Defaults -/

/-- What an option has in a flow without rules, and where it is from. An authored action stays as it
is, an exit without outcome taking it from the correctness of the option, and is explicit unless the
option names another source. A correct option without an action exits with a pass and an incorrect
one loops, by default. -/
def StageOption.filling (stage : Stage) (option : StageOption) : Action × EdgeSource :=
  match option.next with
  | some action => (action.completed (stage.isCorrect option), option.nextSource.getD .explicit)
  | none => (if stage.isCorrect option then .exit (some .pass) else .loop, .default)

/-- The option with what it has in a flow. -/
def StageOption.defaulted (stage : Stage) (option : StageOption) : StageOption :=
  { option with
    next := some (option.filling stage).1
    nextSource := some (option.filling stage).2 }

/-- Without rules an option is resolved by its own action, or by default. -/
theorem resolution_nil (stage : Stage) (option : StageOption) :
    resolution [] stage option = option.filling stage := by
  unfold StageOption.filling
  cases hnext : option.next with
  | some action => exact resolution_of_next hnext
  | none =>
    have hunclaimed : claimant? [] (.ofCorrectness (stage.isCorrect option)) stage.id = none := rfl
    exact resolution_of_unclaimed hnext hunclaimed

theorem Stage.resolved_nil (stage : Stage) :
    stage.resolved [] = stage.mapOptions (StageOption.defaulted stage) := by
  apply mapOptions_congr
  intro option _
  rw [StageOption.resolved, StageOption.defaulted, resolution_nil]

theorem StageOption.becomes_defaulted (stage : Stage) (option : StageOption) :
    option.Becomes (option.filling stage) (option.defaulted stage) :=
  ⟨rfl, rfl, rfl, rfl, rfl, rfl, rfl, rfl⟩

/-- A default moves to no stage, so the targets of a stage are the authored ones. -/
theorem Stage.targets_resolved_nil (stage : Stage) : (stage.resolved []).targets = stage.targets := by
  unfold targets resolved
  rw [options_mapOptions, List.filterMap_map]
  apply List.filterMap_congr
  intro option _
  rcases target?_resolution [] stage option with hsame | ⟨-, target, hmem, -⟩
  · exact hsame
  · cases hmem

/-! ## Reachability -/

/-- A change of the stages that keeps their ids and their targets keeps what is reached. -/
theorem StageMap.leads_map {f : Stage → Stage} (hid : ∀ stage, (f stage).id = stage.id)
    (htargets : ∀ stage, (f stage).targets = stage.targets) (stages : List Stage)
    (entry id : String) :
    (ofStages (stages.map f)).Leads entry id ↔ (ofStages stages).Leads entry id := by
  have hids : (stages.map f).map Stage.id = stages.map Stage.id := by
    rw [List.map_map]
    exact List.map_congr_left fun stage _ => hid stage
  have hedge : (ofStages (stages.map f)).Edge = (ofStages stages).Edge := by
    funext source target
    simp only [eq_iff_iff, edge_ofStages, stage?_map hid, hids, Option.map_eq_some_iff]
    constructor
    · rintro ⟨_, ⟨stage, hstage, rfl⟩, htarget, hmem⟩
      exact ⟨stage, hstage, htargets stage ▸ htarget, hmem⟩
    · rintro ⟨stage, hstage, htarget, hmem⟩
      exact ⟨f stage, ⟨stage, hstage, rfl⟩, (htargets stage).symm ▸ htarget, hmem⟩
  rw [Leads, Leads, hedge]

/-- A finding for every stage that no chain of edges leads to from the entry. -/
def outOfReachFindings (entry : String) (stages : List Stage) : List Finding :=
  (stages.filter fun stage => !decide ((StageMap.ofStages stages).Leads entry stage.id)).map
    fun stage => .unreachableStage stage.id entry

/-- What the search reports about defaulted stages is what there is to say about the authored
ones. -/
theorem unreachable_resolved_nil (entry : String) (stages : List Stage) :
    unreachable entry (stages.map (Stage.resolved [])) [] = outOfReachFindings entry stages := by
  have hleads : ∀ id, (StageMap.ofStages (stages.map (Stage.resolved []))).Leads entry id
      ↔ (StageMap.ofStages stages).Leads entry id :=
    StageMap.leads_map (f := Stage.resolved []) (fun _ => rfl) Stage.targets_resolved_nil stages
      entry
  simp only [unreachable, outOfReachFindings, contains_reachableFrom, hleads, List.contains_nil,
    Bool.not_false, Bool.and_true, List.filter_map, List.map_map]
  rfl

namespace BranchingDocument

variable {document : BranchingDocument}

/-! ## The verdict -/

/-- What there is to say about a document with explicit actions: an entry that is no stage, the
actions that move to something that is none, and, if there is an entry to start from, the stages out
of reach. -/
def verdict (document : BranchingDocument) : List Finding :=
  let entry := document.settings.entry
  (if entry ∈ document.stages.map Stage.id then [] else [.unknownEntryStage entry])
    ++ targetFindings document.stages
    ++ (if entry ∈ document.stages.map Stage.id then outOfReachFindings entry document.stages
        else [])

theorem compile_findings : document.compile.findings = document.verdict := by
  have htargets : unknownTargets document.settled = targetFindings document.stages := by
    rw [settled_eq_resolved]
    apply unknownTargets_resolved
    intro rule hrule
    cases hrule
  rw [compile_eq_finish, entryOf, verdict]
  by_cases hentry : document.settings.entry ∈ document.stages.map Stage.id
  · rw [if_pos (stage?_isSome.mpr hentry), finish_findings_ok, htargets, settled_eq_resolved,
      unreachable_resolved_nil]
    simp only [hentry, if_true, List.nil_append]
  · rw [if_neg (mt stage?_isSome.mp hentry), finish_findings_error, htargets]
    simp only [hentry, if_false, List.append_nil]

/-- Whatever is said is an error. -/
theorem isError_of_mem_verdict {finding : Finding} (h : finding ∈ document.verdict) :
    finding.isError = true := by
  simp only [verdict, List.mem_append] at h
  rcases h with (hentry | htarget) | hreach
  · split at hentry
    · cases hentry
    · rw [List.mem_singleton.mp hentry]
      rfl
  · obtain ⟨stage, -, hstage⟩ := List.mem_flatMap.mp htarget
    obtain ⟨option, -, hoption⟩ := List.mem_filterMap.mp hstage
    unfold targetFinding? at hoption
    split at hoption
    · split at hoption
      · cases hoption
      · cases hoption
        rfl
    · cases hoption
  · split at hreach
    · obtain ⟨stage, -, rfl⟩ := List.mem_map.mp hreach
      rfl
    · cases hreach

/-- The only entry that a document has is the one it names. -/
theorem entryOf_eq_ok {entry : String} (h : document.entryOf = .ok entry) :
    entry = document.settings.entry := by
  unfold entryOf at h
  split at h <;> cases h
  rfl

/-- A document with explicit actions is judged by its authored stages: exactly the verdict is found,
there is a flow if and only if the verdict is empty, and the flow has the names and the entry of the
document and its stages in their order, where nothing but the action of every option is filled in,
with a note of its source. Field by field, nothing else becomes of a stage. -/
theorem verdict_exact (document : BranchingDocument) :
    document.compile.findings = document.verdict
    ∧ (document.compile.flow.isSome = true ↔ document.verdict = [])
    ∧ ∀ flow, document.compile.flow = some flow →
      flow = ⟨document.itemId, document.atomId, document.settings.entry,
        document.stages.map fun stage => stage.mapOptions (StageOption.defaulted stage)⟩
      ∧ List.Forall₂ (fun authored compiled =>
          authored.Becomes (StageOption.filling authored) compiled)
        document.stages flow.stages := by
  have hfindings : document.compile.findings = document.verdict := compile_findings
  refine ⟨hfindings, ?_, ?_⟩
  · rw [Option.isSome_iff_ne_none, Ne, compile_flow_eq_none, hfindings]
    constructor
    · -- an error stands in the way, and there is nothing else that could be found
      intro hclean
      apply List.eq_nil_iff_forall_not_mem.mpr
      intro finding hfinding
      exact hclean ⟨finding, hfinding, isError_of_mem_verdict hfinding⟩
    · rintro hnil ⟨finding, hfinding, -⟩
      rw [hnil] at hfinding
      cases hfinding
  · intro flow hflow
    obtain ⟨hentry, hparts⟩ := flow_eq_of_compile hflow
    have hstages : document.settled
        = document.stages.map fun stage => stage.mapOptions (StageOption.defaulted stage) :=
      settled_eq_resolved.trans (List.map_congr_left fun stage _ => stage.resolved_nil)
    rw [hparts, entryOf_eq_ok hentry, hstages]
    refine ⟨rfl, ?_⟩
    rw [List.forall₂_map_right_iff, List.forall₂_same]
    exact fun stage _ => Stage.becomes_mapOptions (StageOption.becomes_defaulted stage) stage

end BranchingDocument

namespace Detour

/-- A question in which an option moves to nowhere and a stage only leads to itself. -/
def adrift : BranchingDocument :=
  ⟨none, none, ⟨"ASK", none⟩, [
    stage "ASK" [{ plain "a" with next := some (.goto "GONE") }] none,
    stage "TRY" [{ plain "a" with next := some (.branch "TRY") }] none]⟩

/-- Nothing is found in the question with a cycle, whose flow has its actions, the exit failing as
its option is incorrect, and a default. Of the question adrift everything is said at once. -/
theorem cycle_judged :
    (cycle.compile.findings = []
      ∧ cycle.compile.flow = some ⟨none, none, "ASK", [
        stage "ASK" [
          { plain "a" with next := some (.exit (some .fail)), nextSource := some .explicit },
          { plain "b" with next := some (.branch "TRY"), nextSource := some .explicit }] none,
        stage "TRY" [
          { plain "a" with next := some .loop, nextSource := some .default },
          { plain "b" with next := some (.goto "ASK"), nextSource := some .explicit }] none]⟩)
    ∧ adrift.compile.findings
        = [.unknownTransitionTarget "ASK" "GONE", .unreachableStage "TRY" "ASK"]
      ∧ adrift.compile.flow.isSome = false := by
  have hclean : cycle.verdict = [] := by decide
  have hfound : adrift.verdict
      = [.unknownTransitionTarget "ASK" "GONE", .unreachableStage "TRY" "ASK"] := by decide
  refine ⟨?_, ?_⟩
  · obtain ⟨hfindings, hsome, hflow⟩ := BranchingDocument.verdict_exact cycle
    obtain ⟨flow, hcompiled⟩ := Option.isSome_iff_exists.mp (hsome.mpr hclean)
    refine ⟨hfindings.trans hclean, ?_⟩
    rw [hcompiled, (hflow flow hcompiled).1]
    decide
  · obtain ⟨hfindings, hsome, -⟩ := BranchingDocument.verdict_exact adrift
    refine ⟨hfindings.trans hfound, ?_⟩
    rw [← Bool.not_eq_true, hsome, hfound]
    decide

end Detour

/-! ## Notes -/

/-- The stage apart from the actions of its options. -/
def Stage.withoutActions (stage : Stage) : Stage :=
  stage.mapOptions fun option => { option with next := none }

namespace Detour

/-- Not only the actions of a document change: the flow of the question with a cycle also notes where
they are from. -/
theorem sources_noted : ¬ ∀ raw document flow, BranchingDocument.schema raw = .accepted document →
    document.compile.flow = some flow →
      flow.stages.map Stage.withoutActions = document.stages.map Stage.withoutActions := by
  intro hall
  have hsome : cycle.compile.flow.isSome = true := by decide
  obtain ⟨flow, hflow⟩ := Option.isSome_iff_exists.mp hsome
  have hsame := hall rawCycle cycle flow schema_rawCycle hflow
  have hnoted : cycle.compile.flow.map (fun flow => flow.stages.map Stage.withoutActions)
      ≠ some (cycle.stages.map Stage.withoutActions) := by decide
  rw [hflow] at hnoted
  exact hnoted (congrArg some hsame)

end Detour

end AdaptiveQuiz
