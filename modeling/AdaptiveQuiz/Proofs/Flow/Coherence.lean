import AdaptiveQuiz.Proofs.Flow.DependencyTree

/-!
# Which rules make a flow

Whether a document without authored actions compiles can be read off its unlock rules, without any
search: one stage has no condition, the others hang from it by their dependencies, no two of them
compete, and every parent has an answer of the kind that is waited for. One direction collects what
is known of the tree that a flow makes. In the other one, every rule gets an option of its parent, so
that the search finds along the edges whatever the dependencies reach; nothing is left to report.
A warning is never alone, therefore: the stage whose rule it is about is out of reach.

## Main definitions

* `DeclarativeDocument.Coherent`: what the rules have to be like

## Main statements

* `DeclarativeDocument.coherent_of_compile`, `DeclarativeDocument.Coherent.findings_eq_nil`: the two
  directions
* `DeclarativeDocument.compiles_iff_coherent`
-/

namespace AdaptiveQuiz

namespace DeclarativeDocument

/-- Rules that hang together: exactly one stage has no condition, every other one depends on a stage
of the document and, over the stages it depends on, in the end on that one, no two stages have the
same condition, and the parent of a rule has an option that the trigger of the rule concerns. -/
structure Coherent (document : DeclarativeDocument) : Prop where
  existsUnique_entry : ∃! entry, entry ∈ document.stages ∧ entry.isUnconditional = true
  parent_mem : ∀ stage ∈ document.stages, stage.isUnconditional = false →
    ∃ parent ∈ document.stages, stage.dependsOn? = some parent.id
  grounded : ∀ entry ∈ document.stages, entry.isUnconditional = true → ∀ stage ∈ document.stages,
    Relation.ReflTransGen document.IsDependency entry.id stage.id
  rulesDiffer : RulesDiffer document.stages
  answerable : ∀ stage ∈ document.stages, ∀ parent ∈ document.stages, ∀ trigger,
    stage.unlock = some (.after trigger parent.id) →
      ∃ option ∈ parent.options, trigger.concerns parent.toStage option = true

variable {document : DeclarativeDocument} {flow : Flow}

/-! ## What a flow tells about the rules -/

/-- A rule with a condition is a step of the flow. -/
theorem gotoBy_of_after (h : WellFormedStages document.authored) (hpure : document.IsPure)
    (hflow : document.compile.flow = some flow) {stage : DeclarativeStage}
    (hstage : stage ∈ document.stages) {trigger : Trigger} {parentId : String}
    (hrule : stage.unlock = some (.after trigger parentId)) :
    flow.GotoBy trigger.source parentId stage.id :=
  (gotoBy_iff h hpure hflow).mpr ⟨stage, hstage, rfl, hrule⟩

theorem coherent_of_compile (h : WellFormedStages document.authored) (hpure : document.IsPure)
    (hflow : document.compile.flow = some flow) : document.Coherent := by
  constructor
  · -- the stage without a condition is the entry of the flow
    obtain ⟨entry, hentry, hid⟩ :=
      List.mem_map.mp (mem_of_entryOf_eq_ok (flow_eq_of_compile hflow).1)
    refine ⟨entry, ⟨hentry, (isUnconditional_iff h hflow hentry).mpr hid⟩, ?_⟩
    rintro other ⟨hother, hunconditional⟩
    apply stage_eq_of_id_eq h hother hentry
    rw [hid, (isUnconditional_iff h hflow hother).mp hunconditional]
  · intro stage hstage hconditional
    obtain ⟨trigger, parentId, hrule⟩ := isUnconditional_eq_false.mp hconditional
    obtain ⟨parent, hparent, hid, -⟩ :=
      exists_concerned_of_gotoBy h hpure hflow (gotoBy_of_after h hpure hflow hstage hrule)
    refine ⟨parent, hparent, ?_⟩
    simp [DeclarativeStage.dependsOn?, hrule, hid]
  · intro entry hentry hunconditional stage hstage
    have hmem : stage.id ∈ flow.stageIds := by
      rw [stageIds_of_compile h hflow]
      exact List.mem_map_of_mem hstage
    rw [(isUnconditional_iff h hflow hentry).mp hunconditional]
    -- the steps from the entry to the stage are dependencies
    refine Relation.ReflTransGen.mono ?_ _ _ ((isRootedTree h hpure hflow).reachable _ hmem)
    intro parent child hgoto
    obtain ⟨child, hchild, hid, -, hdepends⟩ := (goto_iff h hpure hflow).mp hgoto
    exact ⟨child, hchild, hid, hdepends⟩
  · intro stage hstage other hother hconditional hsame
    obtain ⟨trigger, parentId, hrule⟩ := isUnconditional_eq_false.mp hconditional
    -- a parent has one child for each trigger
    apply stage_eq_of_id_eq h hother hstage
    apply gotoBy_unique h hpure hflow
    · exact gotoBy_of_after h hpure hflow hother (hsame.trans hrule)
    · exact gotoBy_of_after h hpure hflow hstage hrule
  · intro stage hstage parent hparent trigger hrule
    obtain ⟨found, hfound, hid, hoption⟩ :=
      exists_concerned_of_gotoBy h hpure hflow (gotoBy_of_after h hpure hflow hstage hrule)
    rw [stage_eq_of_id_eq h hfound hparent hid] at hoption
    exact hoption

/-! ## What the rules tell about the flow -/

namespace Coherent

/-- The entry is the only stage without a condition. -/
theorem exists_unconditionalIds (h : document.Coherent)
    (hnodup : (document.stages.map fun stage => stage.id).Nodup) :
    ∃ entry ∈ document.stages, entry.isUnconditional = true
      ∧ document.stages.filter DeclarativeStage.isUnconditional = [entry] := by
  obtain ⟨entry, ⟨hentry, hunconditional⟩, hunique⟩ := h.existsUnique_entry
  refine ⟨entry, hentry, hunconditional, List.perm_singleton.mp ?_⟩
  have hfilter : (document.stages.filter DeclarativeStage.isUnconditional).Nodup :=
    (List.Nodup.of_map _ hnodup).filter _
  apply (List.perm_ext_iff_of_nodup hfilter (List.nodup_singleton entry)).mpr
  intro stage
  rw [List.mem_filter, List.mem_singleton]
  constructor
  · exact hunique stage
  · rintro rfl
    exact ⟨hentry, hunconditional⟩

/-- A stage with a condition waits for an answer on a stage of the document. -/
theorem exists_parent (h : document.Coherent) {target : DeclarativeStage}
    (htarget : target ∈ document.stages) {trigger : Trigger} {parentId : String}
    (hrule : target.unlock = some (.after trigger parentId)) :
    ∃ parent ∈ document.stages, parent.id = parentId
      ∧ ∃ option ∈ parent.options, trigger.concerns parent.toStage option = true := by
  have hconditional := isUnconditional_eq_false.mpr ⟨trigger, parentId, hrule⟩
  obtain ⟨parent, hparent, hdepends⟩ := h.parent_mem target htarget hconditional
  have hid : parentId = parent.id := by simpa [DeclarativeStage.dependsOn?, hrule] using hdepends
  subst hid
  exact ⟨parent, hparent, rfl, h.answerable target htarget parent hparent trigger hrule⟩

/-- There is nothing to say about a rule: its parent exists, has an option for it, which is free, and
nobody else claims it. -/
theorem ruleFinding?_eq_none (h : document.Coherent) (hstages : WellFormedStages document.authored)
    (hpure : document.IsPure) {target : DeclarativeStage} (htarget : target ∈ document.stages) :
    ruleFinding? document.stages target = none := by
  cases hunlock : target.unlock with
  | none => simp only [ruleFinding?, hunlock]
  | some rule =>
    cases rule with
    | always parent => simp only [ruleFinding?, hunlock]
    | after trigger parentId =>
      obtain ⟨parent, hparent, rfl, option, hoption, hconcerns⟩ := h.exists_parent htarget hunlock
      have hfound : stage? (document.stages.map fun stage => stage.toStage) parent.id
          = some parent.toStage :=
        (stage?_eq_some hstages.ids_nodup).mpr ⟨List.mem_map_of_mem hparent, rfl⟩
      simp only [ruleFinding?, hunlock, hfound]
      rw [if_neg, if_neg]
      · rintro (hwired | hearlier)
        · have hauthored := hwired option hoption hconcerns
          rw [hpure parent hparent option hoption] at hauthored
          cases hauthored
        · exact h.rulesDiffer.not_before htarget hunlock hearlier
      · rintro ⟨rfl, hincorrect⟩
        have hcorrect : parent.toStage.isCorrect option = true := hconcerns
        rw [hincorrect option hoption] at hcorrect
        cases hcorrect

/-- Along the dependencies run edges between the resolved stages, as every rule has got an option. -/
theorem edge_of_after (h : document.Coherent) (hstages : WellFormedStages document.authored)
    (hpure : document.IsPure) {target : DeclarativeStage} (htarget : target ∈ document.stages)
    {trigger : Trigger} {parentId : String}
    (hrule : target.unlock = some (.after trigger parentId)) :
    (StageMap.ofStages document.settled).Edge parentId target.id := by
  obtain ⟨parent, hparent, rfl, option, hoption, hnext, -⟩ :=
    exists_wired_of_ruleFinding?_none hstages htarget hrule
      (h.ruleFinding?_eq_none hstages hpure htarget)
  apply StageMap.edge_ofStages.mpr
  refine ⟨parent, (stage?_eq_some ?_).mpr ⟨hparent, rfl⟩, ?_, ?_⟩
  · rw [ids_settled hstages]
    exact ids_nodup hstages
  · exact Stage.mem_targets.mpr ⟨option, hoption, Or.inl hnext⟩
  · rw [ids_settled hstages]
    exact List.mem_map_of_mem htarget

/-- What the dependencies reach from the entry, the edges reach as well. -/
theorem leads_of_dependencies (h : document.Coherent)
    (hstages : WellFormedStages document.authored) (hpure : document.IsPure)
    {entry : DeclarativeStage} (hentry : entry ∈ document.stages)
    (hunconditional : entry.isUnconditional = true) {id : String}
    (hreach : Relation.ReflTransGen document.IsDependency entry.id id) :
    (StageMap.ofStages document.settled).Leads entry.id id := by
  induction hreach with
  | refl => exact Relation.ReflTransGen.refl
  | @tail parent _ _ hdependency ih =>
    obtain ⟨child, hchild, rfl, hdepends⟩ := hdependency
    cases hconditional : child.isUnconditional with
    | true =>
      -- a dependency of the entry leads back to where the chain starts
      have hsame : child = entry :=
        h.existsUnique_entry.unique ⟨hchild, hconditional⟩ ⟨hentry, hunconditional⟩
      rw [hsame]
      exact Relation.ReflTransGen.refl
    | false =>
      obtain ⟨trigger, parentId, hrule⟩ := isUnconditional_eq_false.mp hconditional
      have hid : parentId = parent := by simpa [DeclarativeStage.dependsOn?, hrule] using hdepends
      subst hid
      exact ih.tail (h.edge_of_after hstages hpure hchild hrule)

/-- Nothing is found about a document with rules that hang together. -/
theorem findings_eq_nil {raw : Json} (h : document.Coherent)
    (haccepted : DeclarativeDocument.schema raw = .accepted document) (hpure : document.IsPure) :
    document.compile.findings = [] := by
  have hstages := wellFormed_of_schema haccepted
  obtain ⟨entry, hentry, hunconditional, hfilter⟩ := h.exists_unconditionalIds (ids_nodup hstages)
  have hentries : unconditionalIds document.stages = [entry.id] := by
    rw [unconditionalIds, hfilter, List.map_singleton]
  have hrules : document.stages.filterMap (ruleFinding? document.stages) = [] :=
    List.filterMap_eq_nil_iff.mpr fun _ => h.ruleFinding?_eq_none hstages hpure
  have htargets : targetFindings document.authored = [] := by
    apply List.flatMap_eq_nil_iff.mpr
    intro stage hstage
    obtain ⟨declared, hdeclared, rfl⟩ := List.mem_map.mp hstage
    apply List.filterMap_eq_nil_iff.mpr
    intro option hoption
    simp [targetFinding?, hpure declared hdeclared option hoption]
  have hreached : unreachableFindings document.stages entry.id = [] := by
    simp only [unreachableFindings, ← settled_eq_resolved hstages, List.map_eq_nil_iff,
      List.filter_eq_nil_iff]
    intro stage hstage
    simp [h.leads_of_dependencies hstages hpure hentry hunconditional
      (h.grounded entry hentry hunconditional stage hstage)]
  rw [compile_findings haccepted, entryFindings, hentries, hrules, htargets]
  simp [hreached]

end Coherent

/-! ## Which documents compile -/

/-- A document without authored actions compiles if and only if its rules hang together. So whenever
a rule is warned about, the compilation fails. -/
theorem compiles_iff_coherent {raw : Json}
    (h : DeclarativeDocument.schema raw = .accepted document) (hpure : document.IsPure) :
    (document.compile.flow.isSome = true ↔ document.Coherent)
    ∧ ∀ stage parent, .unlockShadowed stage parent ∈ document.compile.findings
        ∨ .noCorrectOption stage parent ∈ document.compile.findings →
      document.compile.flow = none := by
  have hcoherent : document.compile.flow.isSome = true → document.Coherent := by
    intro hsome
    obtain ⟨flow, hflow⟩ := Option.isSome_iff_exists.mp hsome
    exact coherent_of_compile (wellFormed_of_schema h) hpure hflow
  constructor
  · refine ⟨hcoherent, fun hrules => ?_⟩
    -- without findings there is no error that could stand in the way
    rw [Option.isSome_iff_ne_none]
    intro hnone
    obtain ⟨finding, hfinding, -⟩ := compile_flow_eq_none.mp hnone
    rw [hrules.findings_eq_nil h hpure] at hfinding
    cases hfinding
  · intro stage parent hwarning
    apply Option.not_isSome_iff_eq_none.mp
    intro hsome
    rw [(hcoherent hsome).findings_eq_nil h hpure] at hwarning
    rcases hwarning with hwarning | hwarning <;> cases hwarning

end DeclarativeDocument

namespace Detour

/-- Two stages that wait for something on `ASK`, the first of them for a correct answer, as
authored. -/
def rawTwinStages (condition : String) : List Json :=
  [rawStage "ASK" [rawOption "a" [("is_correct", .bool true)], rawOption "b" []] [],
    rawStage "TRY" [rawOption "a" [("is_correct", .bool true)]] (rawRule "after_stage_correct"),
    rawStage "AGAIN" [rawOption "a" [("is_correct", .bool true)]] (rawRule condition)]

/-- A question of some stages. -/
def rawStages (stages : List Json) : Json := .object [("stages", .array stages)]

/-- The question with two such stages as it is read. -/
def twins (trigger : Trigger) : DeclarativeDocument where
  itemId := none
  atomId := none
  difficulty := none
  contextTags := []
  stages := [
    ⟨stage "ASK" [{ plain "a" with isCorrect := some true }, plain "b"] none, none⟩,
    ⟨stage "TRY" [{ plain "a" with isCorrect := some true }] none, some (.after .correct "ASK")⟩,
    ⟨stage "AGAIN" [{ plain "a" with isCorrect := some true }] none, some (.after trigger "ASK")⟩]

theorem schema_rawTwins :
    DeclarativeDocument.schema (rawStages (rawTwinStages "after_stage_attempts_exceeded"))
      = .accepted (twins .attemptsExceeded) := by decide

/-- The two rules hang together if they wait for different things. If both wait for a correct answer,
the second one is warned about, and there is no flow. -/
theorem twins_compile : (twins .attemptsExceeded).Coherent ∧ ¬ (twins .correct).Coherent
    ∧ (twins .correct).compile.flow = none := by
  have halike : DeclarativeDocument.schema (rawStages (rawTwinStages "after_stage_correct"))
      = .accepted (twins .correct) := by decide
  have hpure : ∀ trigger, (twins trigger).IsPure := by
    intro trigger
    simp [DeclarativeDocument.IsPure, twins, stage, plain, Stage.options]
  obtain ⟨hcompiles, -⟩ := DeclarativeDocument.compiles_iff_coherent schema_rawTwins (hpure _)
  obtain ⟨hfails, hwarned⟩ := DeclarativeDocument.compiles_iff_coherent halike (hpure _)
  refine ⟨hcompiles.mp (by decide), ?_, ?_⟩
  · rw [← hfails]
    decide
  · exact hwarned "AGAIN" "ASK" (Or.inl (by decide))

end Detour

end AdaptiveQuiz
