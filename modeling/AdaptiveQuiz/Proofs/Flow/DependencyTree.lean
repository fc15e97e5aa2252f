import AdaptiveQuiz.Proofs.Flow.Soundness
import Mathlib.Data.List.Chain

/-!
# Dependency trees

Where no action is authored, the edges of a flow come from the unlock rules alone. Nothing looks for
cycles among the rules, but a compiled flow has none: a stage has one rule and so one parent, and
every stage is reached from the entry, which has no parent. So the edges make a tree. A rule that
came too late for an option of its parent would leave its stage unreachable, so no two rules of a
compiled document are the same, and a parent has at most one child for each trigger.

## Main definitions

* `IsRootedTree`: edges from parents to children that make a tree
* `DeclarativeStage.dependsOn?`, `DeclarativeDocument.IsDependency`: what the rules name
* `DeclarativeDocument.IsPure`: that there is nothing but rules
* `Flow.Goto`, `Flow.GotoBy`: the steps between the stages of a flow, and those with a given source

## Main statements

* `not_transGen_self`: one parent each and a root without parent leave no room for cycles
* `DeclarativeDocument.gotoBy_iff`, `DeclarativeDocument.goto_iff`: the edges are the rules
* `DeclarativeDocument.isRootedTree`
-/

namespace AdaptiveQuiz

/-! ## Rooted trees -/

/-- Edges from parents to children that make a tree of some vertices. -/
structure IsRootedTree (vertices : List String) (edge : String → String → Prop) (root : String) :
    Prop where
  root_mem : root ∈ vertices
  edge_mem : ∀ parent child, edge parent child → parent ∈ vertices ∧ child ∈ vertices
  root_no_parent : ∀ parent, ¬ edge parent root
  existsUnique_parent : ∀ child ∈ vertices, child ≠ root → ∃! parent, edge parent child
  reachable : ∀ vertex ∈ vertices, Relation.ReflTransGen edge root vertex
  acyclic : ∀ vertex, ¬ Relation.TransGen edge vertex vertex

/-- What is reached from a vertex without parent is on no cycle, if no vertex has two parents. -/
theorem not_transGen_self {edge : String → String → Prop} {root vertex : String}
    (hroot : ∀ parent, ¬ edge parent root)
    (hunique : ∀ parent other child, edge parent child → edge other child → parent = other)
    (hreach : Relation.ReflTransGen edge root vertex) : ¬ Relation.TransGen edge vertex vertex := by
  -- a cycle through a vertex goes through its only parent, back to the root
  induction hreach with
  | refl =>
    intro hcycle
    obtain ⟨parent, -, hedge⟩ := Relation.TransGen.tail'_iff.mp hcycle
    exact hroot parent hedge
  | @tail parent child _ hedge ih =>
    intro hcycle
    obtain ⟨last, hpath, hlast⟩ := Relation.TransGen.tail'_iff.mp hcycle
    have hparent : last = parent := hunique last parent child hlast hedge
    rw [hparent] at hpath
    exact ih (Relation.TransGen.head' hedge hpath)

/-- No path in a tree meets a vertex twice. -/
theorem IsRootedTree.nodup_of_isChain {vertices : List String} {edge : String → String → Prop}
    {root : String} (h : IsRootedTree vertices edge root) {path : List String}
    (hpath : path.IsChain edge) : path.Nodup := by
  have hchain : path.IsChain (Relation.TransGen edge) :=
    hpath.imp fun _ _ hedge => Relation.TransGen.single hedge
  refine hchain.pairwise.imp ?_
  rintro vertex _ hcycle rfl
  exact h.acyclic vertex hcycle

/-! ## Rules and steps -/

/-- The stage that the rule of a stage names. -/
def DeclarativeStage.dependsOn? (stage : DeclarativeStage) : Option String :=
  match stage.unlock with
  | none => none
  | some (.always parent) => parent
  | some (.after _ parent) => some parent

/-- The rule of the second stage names the first one. -/
def DeclarativeDocument.IsDependency (document : DeclarativeDocument) (parent child : String) :
    Prop :=
  ∃ stage ∈ document.stages, stage.id = child ∧ stage.dependsOn? = some parent

/-- No option of a document has an authored action. -/
def DeclarativeDocument.IsPure (document : DeclarativeDocument) : Prop :=
  ∀ stage ∈ document.stages, ∀ option ∈ stage.options, option.next = none

namespace Flow

/-- An option of the first stage leads to the second one. -/
def Goto (flow : Flow) (parent child : String) : Prop :=
  ∃ stage ∈ flow.stages, stage.id = parent
    ∧ ∃ option ∈ stage.options, option.next = some (.goto child)

/-- An option of the first stage leads to the second one, by an action from a given source. -/
def GotoBy (flow : Flow) (source : EdgeSource) (parent child : String) : Prop :=
  ∃ stage ∈ flow.stages, stage.id = parent
    ∧ ∃ option ∈ stage.options, option.next = some (.goto child)
      ∧ option.nextSource = some source

theorem Goto.of_gotoBy {flow : Flow} {source : EdgeSource} {parent child : String}
    (h : flow.GotoBy source parent child) : flow.Goto parent child := by
  obtain ⟨stage, hstage, hid, option, hoption, hnext, -⟩ := h
  exact ⟨stage, hstage, hid, option, hoption, hnext⟩

end Flow

theorem Trigger.source_injective : Function.Injective Trigger.source := by
  intro first second h
  cases first <;> cases second <;> first | rfl | cases h

namespace DeclarativeDocument

variable {document : DeclarativeDocument} {flow : Flow} {trigger : Trigger} {parent child : String}

/-! ## Flows without authored actions -/

/-- An option leads where a rule has it lead, or it has the default action. -/
theorem option_cases (h : WellFormedStages document.authored) (hpure : document.IsPure)
    (hflow : document.compile.flow = some flow) {stage : Stage} (hstage : stage ∈ flow.stages)
    {option : StageOption} (hoption : option ∈ stage.options) :
    (∃ trigger target, claimant? document.stages trigger stage.id = some target
      ∧ option.next = some (.goto target) ∧ option.nextSource = some trigger.source)
    ∨ option.nextSource = some .default
      ∧ (option.next = some (.exit (some .pass)) ∨ option.next = some .loop) := by
  obtain ⟨declared, hdeclared, rfl, original, horiginal, rfl⟩ :=
    exists_resolved_of_mem h hflow hstage hoption
  have hfree : original.next = none := hpure declared hdeclared original horiginal
  cases hclaim : claimant? document.stages
      (.ofCorrectness (declared.toStage.isCorrect original)) declared.toStage.id with
  | some target =>
    have hresolution := resolution_of_claimant? hfree hclaim
    refine Or.inl ⟨_, target, hclaim, ?_, ?_⟩
    · rw [StageOption.resolved, hresolution]
    · rw [StageOption.resolved, hresolution]
  | none =>
    have hresolution := resolution_of_unclaimed hfree hclaim
    refine Or.inr ⟨?_, ?_⟩
    · rw [StageOption.resolved, hresolution]
    · rw [StageOption.resolved, hresolution]
      cases declared.toStage.isCorrect original with
      | true => exact Or.inl rfl
      | false => exact Or.inr rfl

/-- The only stage without a condition is the entry. -/
theorem isUnconditional_iff (h : WellFormedStages document.authored)
    (hflow : document.compile.flow = some flow) {stage : DeclarativeStage}
    (hstage : stage ∈ document.stages) :
    stage.isUnconditional = true ↔ stage.id = flow.entry := by
  have hids : unconditionalIds document.stages = [flow.entry] :=
    entryOf_eq_ok.mp (flow_eq_of_compile hflow).1
  constructor
  · intro hunconditional
    have hmem : stage.id ∈ unconditionalIds document.stages :=
      List.mem_map.mpr ⟨stage, List.mem_filter.mpr ⟨hstage, hunconditional⟩, rfl⟩
    rw [hids] at hmem
    exact List.mem_singleton.mp hmem
  · intro hid
    have hmem : flow.entry ∈ unconditionalIds document.stages := by
      rw [hids]
      exact List.mem_singleton_self _
    obtain ⟨entry, hentry, heq⟩ := List.mem_map.mp hmem
    obtain ⟨hentry, hunconditional⟩ := List.mem_filter.mp hentry
    rw [← stage_eq_of_id_eq h hentry hstage (heq.trans hid.symm)]
    exact hunconditional

/-- A stage with a condition is not the entry. -/
theorem id_ne_entry_of_after (h : WellFormedStages document.authored)
    (hflow : document.compile.flow = some flow) {stage : DeclarativeStage}
    (hstage : stage ∈ document.stages) (hrule : stage.unlock = some (.after trigger parent)) :
    stage.id ≠ flow.entry := by
  intro hid
  have hunconditional := (isUnconditional_iff h hflow hstage).mpr hid
  simp only [DeclarativeStage.isUnconditional, hrule] at hunconditional
  cases hunconditional

/-! ## The edges -/

/-- Every step is due to a rule. -/
theorem exists_gotoBy_of_goto (h : WellFormedStages document.authored) (hpure : document.IsPure)
    (hflow : document.compile.flow = some flow) (hgoto : flow.Goto parent child) :
    ∃ trigger : Trigger, flow.GotoBy trigger.source parent child := by
  obtain ⟨stage, hstage, hid, option, hoption, hnext⟩ := hgoto
  rcases option_cases h hpure hflow hstage hoption with
    ⟨trigger, target, -, htarget, hsource⟩ | ⟨-, hdefault | hdefault⟩
  · exact ⟨trigger, stage, hstage, hid, option, hoption, hnext, hsource⟩
  · rw [hnext] at hdefault
    cases hdefault
  · rw [hnext] at hdefault
    cases hdefault

/-- The rule that a step is due to is the first one of its kind. -/
theorem claimant?_of_gotoBy (h : WellFormedStages document.authored) (hpure : document.IsPure)
    (hflow : document.compile.flow = some flow) (hgoto : flow.GotoBy trigger.source parent child) :
    claimant? document.stages trigger parent = some child := by
  obtain ⟨stage, hstage, rfl, option, hoption, hnext, hsource⟩ := hgoto
  rcases option_cases h hpure hflow hstage hoption with
    ⟨trigger', target, hclaim, hnext', hsource'⟩ | ⟨hsource', -⟩
  · rw [hnext] at hnext'
    rw [hsource, Option.some.injEq] at hsource'
    cases hnext'
    rw [Trigger.source_injective hsource']
    exact hclaim
  · -- a default action is not due to a trigger
    rw [hsource] at hsource'
    cases trigger <;> cases hsource'

/-- A step of a trigger is taken by an answer that the trigger concerns. -/
theorem exists_concerned_of_gotoBy (h : WellFormedStages document.authored)
    (hpure : document.IsPure) (hflow : document.compile.flow = some flow)
    (hgoto : flow.GotoBy trigger.source parent child) :
    ∃ stage ∈ document.stages, stage.id = parent
      ∧ ∃ option ∈ stage.options, trigger.concerns stage.toStage option = true := by
  obtain ⟨stage, hstage, hid, option, hoption, -, hsource⟩ := hgoto
  obtain ⟨declared, hdeclared, rfl, original, horiginal, rfl⟩ :=
    exists_resolved_of_mem h hflow hstage hoption
  refine ⟨declared, hdeclared, hid, original, horiginal, Trigger.concerns_iff.mpr ?_⟩
  have hfree : original.next = none := hpure declared hdeclared original horiginal
  -- the noted source is that of the trigger which concerns the option, or that of a default
  cases hclaim : claimant? document.stages
      (.ofCorrectness (declared.toStage.isCorrect original)) declared.toStage.id with
  | some target =>
    rw [StageOption.resolved, resolution_of_claimant? hfree hclaim] at hsource
    exact (Trigger.source_injective (Option.some.inj hsource)).symm
  | none =>
    rw [StageOption.resolved, resolution_of_unclaimed hfree hclaim] at hsource
    cases trigger <;> cases hsource

/-- What the search for reachable stages follows are steps. -/
theorem goto_of_edge (h : WellFormedStages document.authored) (hpure : document.IsPure)
    (hflow : document.compile.flow = some flow)
    (hedge : (StageMap.ofStages flow.stages).Edge parent child) : flow.Goto parent child := by
  obtain ⟨stage, hfound, htarget, -⟩ := StageMap.edge_ofStages.mp hedge
  obtain ⟨hstage, hid⟩ := mem_and_id_of_stage? hfound
  obtain ⟨option, hoption, hgoto | hbranch⟩ := Stage.mem_targets.mp htarget
  · exact ⟨stage, hstage, hid, option, hoption, hgoto⟩
  · -- nothing but an author makes a branch
    rcases option_cases h hpure hflow hstage hoption with
      ⟨trigger, target, -, hnext, -⟩ | ⟨-, hnext | hnext⟩
    · rw [hbranch] at hnext
      cases hnext
    · rw [hbranch] at hnext
      cases hnext
    · rw [hbranch] at hnext
      cases hnext

/-- The steps of a trigger are the rules with this trigger. -/
theorem gotoBy_iff (h : WellFormedStages document.authored) (hpure : document.IsPure)
    (hflow : document.compile.flow = some flow) :
    flow.GotoBy trigger.source parent child ↔ ∃ stage ∈ document.stages, stage.id = child
      ∧ stage.unlock = some (.after trigger parent) := by
  constructor
  · intro hgoto
    obtain ⟨rule, hrule, hunlock, hid⟩ :=
      exists_of_claimant? (claimant?_of_gotoBy h hpure hflow hgoto)
    exact ⟨rule, hrule, hid, hunlock⟩
  · rintro ⟨stage, hstage, rfl, hunlock⟩
    -- the stage is reached by a last step, which is due to a rule of its own, the only one it has
    have hmem : stage.id ∈ flow.stageIds := by
      rw [stageIds_of_compile h hflow]
      exact List.mem_map_of_mem hstage
    obtain ⟨reached, hreached, hid⟩ := List.mem_map.mp hmem
    have hleads := (sound_of_compile h hflow).leads reached hreached
    rw [hid] at hleads
    rcases hleads.cases_tail with hentry | ⟨source, -, hedge⟩
    · exact absurd hentry (id_ne_entry_of_after h hflow hstage hunlock)
    · obtain ⟨trigger', hgoto⟩ :=
        exists_gotoBy_of_goto h hpure hflow (goto_of_edge h hpure hflow hedge)
      obtain ⟨rule, hrule, hunlock', hid'⟩ :=
        exists_of_claimant? (claimant?_of_gotoBy h hpure hflow hgoto)
      rw [stage_eq_of_id_eq h hrule hstage hid', hunlock] at hunlock'
      cases hunlock'
      exact hgoto

/-- The steps are the dependencies of the stages other than the entry. -/
theorem goto_iff (h : WellFormedStages document.authored) (hpure : document.IsPure)
    (hflow : document.compile.flow = some flow) :
    flow.Goto parent child ↔ ∃ stage ∈ document.stages, stage.id = child ∧ stage.id ≠ flow.entry
      ∧ stage.dependsOn? = some parent := by
  constructor
  · intro hgoto
    obtain ⟨trigger, hgotoBy⟩ := exists_gotoBy_of_goto h hpure hflow hgoto
    obtain ⟨stage, hstage, hid, hunlock⟩ := (gotoBy_iff h hpure hflow).mp hgotoBy
    refine ⟨stage, hstage, hid, id_ne_entry_of_after h hflow hstage hunlock, ?_⟩
    simp only [DeclarativeStage.dependsOn?, hunlock]
  · rintro ⟨stage, hstage, hid, hne, hdepends⟩
    have hconditional : stage.isUnconditional ≠ true :=
      fun hunconditional => hne ((isUnconditional_iff h hflow hstage).mp hunconditional)
    unfold DeclarativeStage.isUnconditional at hconditional
    unfold DeclarativeStage.dependsOn? at hdepends
    cases hunlock : stage.unlock with
    | none => simp [hunlock] at hconditional
    | some rule =>
      cases rule with
      | always parent' => simp [hunlock] at hconditional
      | after trigger parent' =>
        rw [hunlock] at hdepends
        cases hdepends
        exact Flow.Goto.of_gotoBy
          ((gotoBy_iff h hpure hflow).mpr ⟨stage, hstage, hid, hunlock⟩)

/-- A stage has at most one child for each trigger. -/
theorem gotoBy_unique (h : WellFormedStages document.authored) (hpure : document.IsPure)
    (hflow : document.compile.flow = some flow) {other : String}
    (hchild : flow.GotoBy trigger.source parent child)
    (hother : flow.GotoBy trigger.source parent other) : child = other := by
  have hclaim := claimant?_of_gotoBy h hpure hflow hchild
  rw [claimant?_of_gotoBy h hpure hflow hother] at hclaim
  cases hclaim
  rfl

/-- Of a stage with a child, all options that the trigger concerns lead to the child. -/
theorem option_of_gotoBy (h : WellFormedStages document.authored) (hpure : document.IsPure)
    (hflow : document.compile.flow = some flow) (hgoto : flow.GotoBy trigger.source parent child)
    {stage : Stage} (hstage : stage ∈ flow.stages) (hid : stage.id = parent)
    {option : StageOption} (hoption : option ∈ stage.options)
    (htrigger : .ofCorrectness (stage.isCorrect option) = trigger) :
    option.next = some (.goto child) ∧ option.nextSource = some trigger.source := by
  have hclaim := claimant?_of_gotoBy h hpure hflow hgoto
  obtain ⟨declared, hdeclared, rfl, original, horiginal, rfl⟩ :=
    exists_resolved_of_mem h hflow hstage hoption
  -- resolving an option does not touch what decides about its correctness
  have hcorrect : (declared.toStage.resolved document.stages).isCorrect
      (original.resolved document.stages declared.toStage) = declared.toStage.isCorrect original :=
    rfl
  rw [hcorrect] at htrigger
  rw [← htrigger, ← hid] at hclaim
  have hresolution :=
    resolution_of_claimant? (hpure declared hdeclared original horiginal) hclaim
  rw [StageOption.resolved, hresolution, htrigger]
  exact ⟨rfl, rfl⟩

/-! ## The tree -/

/-- A stage has at most one parent. -/
theorem goto_parent_unique (h : WellFormedStages document.authored) (hpure : document.IsPure)
    (hflow : document.compile.flow = some flow) {other : String} (hparent : flow.Goto parent child)
    (hother : flow.Goto other child) : parent = other := by
  obtain ⟨stage, hstage, hid, -, hdepends⟩ := (goto_iff h hpure hflow).mp hparent
  obtain ⟨stage', hstage', hid', -, hdepends'⟩ := (goto_iff h hpure hflow).mp hother
  rw [stage_eq_of_id_eq h hstage hstage' (hid.trans hid'.symm), hdepends'] at hdepends
  cases hdepends
  rfl

/-- The steps of a flow without authored actions make a tree that is rooted at the entry. -/
theorem isRootedTree (h : WellFormedStages document.authored) (hpure : document.IsPure)
    (hflow : document.compile.flow = some flow) :
    IsRootedTree flow.stageIds flow.Goto flow.entry := by
  have hsound := sound_of_compile h hflow
  have hroot : ∀ parent, ¬ flow.Goto parent flow.entry := by
    intro parent hgoto
    obtain ⟨stage, -, hid, hne, -⟩ := (goto_iff h hpure hflow).mp hgoto
    exact hne hid
  have hedge_mem : ∀ parent child, flow.Goto parent child →
      parent ∈ flow.stageIds ∧ child ∈ flow.stageIds := by
    rintro parent child ⟨stage, hstage, rfl, option, hoption, hnext⟩
    have htarget : child ∈ stage.targets :=
      Stage.mem_targets.mpr ⟨option, hoption, Or.inl hnext⟩
    exact ⟨List.mem_map_of_mem hstage, hsound.targets_mem stage hstage child htarget⟩
  have hreachable : ∀ vertex ∈ flow.stageIds, Relation.ReflTransGen flow.Goto flow.entry vertex := by
    intro vertex hvertex
    obtain ⟨stage, hstage, rfl⟩ := List.mem_map.mp hvertex
    exact Relation.ReflTransGen.mono (fun _ _ => goto_of_edge h hpure hflow) _ _
      (hsound.leads stage hstage)
  have hunique : ∀ parent other child, flow.Goto parent child → flow.Goto other child →
      parent = other := fun _ _ _ => goto_parent_unique h hpure hflow
  refine ⟨hsound.entry_mem, hedge_mem, hroot, ?_, hreachable, ?_⟩
  · intro child hchild hne
    -- the last step of the way from the entry comes from a parent
    rcases (hreachable child hchild).cases_tail with heq | ⟨parent, -, hgoto⟩
    · exact absurd heq hne
    · exact ⟨parent, hgoto, fun other hother => hunique other parent child hother hgoto⟩
  · intro vertex hcycle
    obtain ⟨child, hgoto, -⟩ := Relation.TransGen.head'_iff.mp hcycle
    have hvertex : vertex ∈ flow.stageIds := (hedge_mem vertex child hgoto).1
    exact not_transGen_self hroot hunique (hreachable vertex hvertex) hcycle

end DeclarativeDocument

end AdaptiveQuiz
