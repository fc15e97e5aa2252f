import AdaptiveQuiz.Proofs.Flow.EdgeResolution
import AdaptiveQuiz.Proofs.Flow.Reachability
import Mathlib.Data.List.TakeWhile

/-!
# Diagnostics

The findings about a document with unlock rules, said without running any pass: what is wrong with
the choice of the entry, at most one finding for every rule, one for every authored action that
moves to nothing, and one for every stage that no chain of edges leads to. The passes report exactly
these, each once and in this order, and a rule about which nothing is said has got an option.

## Main definitions

* `entryFindings`, `ruleFinding?`, `targetFindings`, `unreachableFindings`: what there is to say
* `RulesDiffer`: that no two rules compete

## Main statements

* `DeclarativeDocument.wiring_findings`: the rules are reported one by one
* `DeclarativeDocument.compile_findings`: all findings of a document
-/

namespace AdaptiveQuiz

/-! ## What there is to say -/

/-- The stages that are shown without any condition. -/
def unconditionalIds (declared : List DeclarativeStage) : List String :=
  (declared.filter DeclarativeStage.isUnconditional).map fun stage => stage.id

/-- The choice of the entry is wrong unless exactly one stage is shown unconditionally. -/
def entryFindings (declared : List DeclarativeStage) : List Finding :=
  if unconditionalIds declared = [] then [.noEntryStage]
  else if (unconditionalIds declared).length = 1 then []
  else [.ambiguousEntryStage (unconditionalIds declared)]

/-- The stages that come before a stage. -/
def stagesBefore (declared : List DeclarativeStage) (stage : DeclarativeStage) :
    List DeclarativeStage :=
  declared.takeWhile fun other => other.id != stage.id

/-- What there is to say about the rule of a stage: its parent is no stage, or has no correct option
where one is needed, or every option that the rule could have has an action already, authored or by
an earlier stage with the same rule. -/
def ruleFinding? (declared : List DeclarativeStage) (target : DeclarativeStage) :
    Option Finding :=
  match target.unlock with
  | some (.after trigger parentId) =>
    match stage? (declared.map fun stage => stage.toStage) parentId with
    | none => some (.missingDependency target.id parentId)
    | some parent =>
      if trigger = .correct ∧ ∀ option ∈ parent.options, parent.isCorrect option = false then
        some (.noCorrectOption target.id parentId)
      else if (∀ option ∈ parent.options, trigger.concerns parent option = true →
            option.next.isSome = true)
          ∨ ∃ earlier ∈ stagesBefore declared target,
            earlier.unlock = some (.after trigger parentId) then
        some (.unlockShadowed target.id parentId)
      else none
  | _ => none

/-- What there is to say about the authored action of an option. -/
def targetFinding? (ids : List String) (stage : Stage) (option : StageOption) : Option Finding :=
  match option.next.bind Action.target? with
  | some target => if target ∈ ids then none else some (.unknownTransitionTarget stage.id target)
  | none => none

/-- A finding for every option whose authored action moves to something that is not a stage. -/
def targetFindings (stages : List Stage) : List Finding :=
  stages.flatMap fun stage => stage.options.filterMap (targetFinding? (stages.map Stage.id) stage)

/-- A finding for every stage that no chain of resolved edges leads to from the entry, save those
that wait for something that is not a stage. -/
def unreachableFindings (declared : List DeclarativeStage) (entry : String) : List Finding :=
  let map := StageMap.ofStages (declared.map fun stage => stage.toStage.resolved declared)
  (declared.filter fun stage => !decide (map.Leads entry stage.id)
    && !stage.isDangling (declared.map fun stage => stage.id)).map
      fun stage => .unreachableStage stage.id entry

/-! ## The entry -/

theorem entryOf_eq (declared : List DeclarativeStage) :
    entryOf declared = match unconditionalIds declared with
      | [] => .error .noEntryStage
      | [entry] => .ok entry
      | candidates => .error (.ambiguousEntryStage candidates) := rfl

theorem entryOf_eq_ok {declared : List DeclarativeStage} {entry : String} :
    entryOf declared = .ok entry ↔ unconditionalIds declared = [entry] := by
  rw [entryOf_eq]
  split <;> simp_all

/-! ## Rules -/

/-- With different ids, the stages before a stage are those in front of it. -/
theorem stagesBefore_append {earlier later : List DeclarativeStage} {stage : DeclarativeStage}
    (hnodup : ((earlier ++ stage :: later).map fun stage => stage.id).Nodup) :
    stagesBefore (earlier ++ stage :: later) stage = earlier := by
  have hne : ∀ other ∈ earlier, (other.id != stage.id) = true := by
    intro other hother
    rw [bne_iff_ne]
    intro heq
    rw [List.map_append, List.nodup_append] at hnodup
    exact hnodup.2.2 other.id (List.mem_map_of_mem hother) stage.id
      (by simp) heq
  rw [stagesBefore, List.takeWhile_append_of_pos hne, List.takeWhile_cons]
  simp

theorem options_claimed_markExplicit (rules : List DeclarativeStage) (stage : Stage) :
    (stage.markExplicit.claimed rules).options
      = stage.options.map fun option => option.markExplicit.claimed rules stage := by
  rw [Stage.claimed, Stage.options_mapOptions, Stage.markExplicit, Stage.options_mapOptions,
    List.map_map]
  rfl

/-- What a trigger concerns is the same before and after marking and claiming. -/
theorem concerns_claimed_markExplicit (rules : List DeclarativeStage) (trigger : Trigger)
    (stage : Stage) (option : StageOption) :
    trigger.concerns (stage.markExplicit.claimed rules) (option.markExplicit.claimed rules stage)
      = trigger.concerns stage option := by
  rw [Bool.eq_iff_iff, Trigger.concerns_iff, Trigger.concerns_iff]
  show trigger = .ofCorrectness (stage.isCorrect (option.markExplicit.claimed rules stage)) ↔ _
  rw [StageOption.isCorrect_claimed_markExplicit]

/-- The options that a trigger concerns all have actions if they were authored with them, or if an
earlier stage has the same rule. -/
theorem next_isSome_of_concerns_iff (earlier : List DeclarativeStage) (trigger : Trigger)
    (parent : Stage) :
    (∀ option ∈ (parent.markExplicit.claimed earlier).options,
        trigger.concerns (parent.markExplicit.claimed earlier) option = true →
          option.next.isSome = true)
      ↔ (∀ option ∈ parent.options, trigger.concerns parent option = true →
          option.next.isSome = true)
        ∨ ∃ rule ∈ earlier, rule.unlock = some (.after trigger parent.id) := by
  have hoption : ∀ option : StageOption, trigger.concerns parent option = true →
      ((option.markExplicit.claimed earlier parent).next.isSome = true
        ↔ option.next.isSome = true
          ∨ ∃ rule ∈ earlier, rule.unlock = some (.after trigger parent.id)) := by
    intro option hconcerns
    rw [StageOption.next_claimed_isSome, StageOption.next_markExplicit,
      StageOption.isCorrect_markExplicit, ← Trigger.concerns_iff.mp hconcerns]
    refine or_congr_right ?_
    rw [← not_iff_not, Bool.not_eq_true, Option.isSome_eq_false_iff, Option.isNone_iff_eq_none,
      claimant?_eq_none]
    simp
  rw [options_claimed_markExplicit]
  simp only [List.forall_mem_map, concerns_claimed_markExplicit]
  constructor
  · intro hall
    -- without such a rule every option must have been authored with an action
    by_cases hrule : ∃ rule ∈ earlier, rule.unlock = some (.after trigger parent.id)
    · exact Or.inr hrule
    · refine Or.inl fun option hmem hconcerns => ?_
      exact ((hoption option hconcerns).mp (hall option hmem hconcerns)).resolve_right hrule
  · intro hsome option hmem hconcerns
    refine (hoption option hconcerns).mpr ?_
    exact hsome.imp_left fun hauthored => hauthored option hmem hconcerns

/-- What is said about attaching to a parent, in terms of the parent as authored and of the rules
that came before. -/
theorem futility?_claimed_markExplicit (earlier : List DeclarativeStage) (target : String)
    (trigger : Trigger) (parent : Stage) :
    futility? target trigger (parent.markExplicit.claimed earlier) =
      if trigger = .correct ∧ ∀ option ∈ parent.options, parent.isCorrect option = false then
        some (.noCorrectOption target parent.id)
      else if (∀ option ∈ parent.options, trigger.concerns parent option = true →
            option.next.isSome = true)
          ∨ ∃ rule ∈ earlier, rule.unlock = some (.after trigger parent.id) then
        some (.unlockShadowed target parent.id)
      else none := by
  let claimed := parent.markExplicit.claimed earlier
  -- both conditions are about the parent as the earlier rules left it
  have hcandidates : (trigger = .correct && (claimed.options.filter
        (trigger.concerns claimed)).isEmpty) = true
      ↔ trigger = .correct ∧ ∀ option ∈ parent.options, parent.isCorrect option = false := by
    rw [Bool.and_eq_true_iff, decide_eq_true_iff, List.isEmpty_iff, List.filter_eq_nil_iff]
    refine and_congr_right ?_
    rintro rfl
    simp only [claimed, options_claimed_markExplicit, List.forall_mem_map,
      concerns_claimed_markExplicit]
    simp [Trigger.concerns]
  have hwired : (claimed.options.filter (trigger.concerns claimed)).all (·.next.isSome) = true
      ↔ (∀ option ∈ parent.options, trigger.concerns parent option = true →
            option.next.isSome = true)
          ∨ ∃ rule ∈ earlier, rule.unlock = some (.after trigger parent.id) := by
    rw [← next_isSome_of_concerns_iff]
    simp only [List.all_eq_true, List.mem_filter, and_imp, claimed]
  exact if_congr hcandidates rfl (if_congr hwired rfl rfl)

/-- What a pass reports about a rule is what there is to say about it, since the pass has dealt with
the stages before it and with no others. -/
theorem finding?_eq_ruleFinding? {earlier later : List DeclarativeStage}
    {target : DeclarativeStage}
    (hnodup : ((earlier ++ target :: later).map fun stage => stage.id).Nodup) :
    Wiring.finding? (((earlier ++ target :: later).map fun stage => stage.toStage).map
        fun stage => stage.markExplicit.claimed earlier) target
      = ruleFinding? (earlier ++ target :: later) target := by
  cases hrule : target.unlock with
  | none => simp only [Wiring.finding?, ruleFinding?, hrule]
  | some rule =>
    cases rule with
    | always parent => simp only [Wiring.finding?, ruleFinding?, hrule]
    | after trigger parentId =>
      simp only [Wiring.finding?, ruleFinding?, hrule, stagesBefore_append hnodup]
      rw [stage?_map (f := fun stage => stage.markExplicit.claimed earlier) (fun _ => rfl)]
      cases hparent : stage? ((earlier ++ target :: later).map fun stage => stage.toStage)
        parentId with
      | none => rfl
      | some parent =>
        obtain ⟨-, rfl⟩ := mem_and_id_of_stage? hparent
        exact futility?_claimed_markExplicit earlier target.id trigger parent

namespace DeclarativeDocument

variable {document : DeclarativeDocument}

/-- Attaching the rest of the rules adds what there is to say about each of them. -/
theorem findings_foldl_attach {declared earlier rules : List DeclarativeStage} (wiring : Wiring)
    (hnodup : (declared.map fun stage => stage.id).Nodup) (hsplit : declared = earlier ++ rules)
    (hstages : wiring.stages = (declared.map fun stage => stage.toStage).map
      fun stage => stage.markExplicit.claimed earlier) :
    (rules.foldl Wiring.attach wiring).findings
      = wiring.findings ++ rules.filterMap (ruleFinding? declared) := by
  -- on the rules that are left; the stages have been claimed by exactly those before
  induction rules generalizing earlier wiring with
  | nil => simp
  | cons target rules ih =>
    have hids : wiring.stages.map Stage.id = declared.map fun stage => stage.id := by
      rw [hstages, List.map_map, List.map_map]
      rfl
    have hattach := Wiring.attach_eq wiring target (hids ▸ hnodup)
    have hsplit' : declared = (earlier ++ [target]) ++ rules := by
      rw [hsplit, List.append_assoc, List.singleton_append]
    have hstages' : (wiring.attach target).stages = (declared.map fun stage => stage.toStage).map
        fun stage => stage.markExplicit.claimed (earlier ++ [target]) := by
      rw [hattach, hstages, List.map_map]
      exact List.map_congr_left fun stage _ => Stage.claimed_append earlier [target] _
    have hfinding : Wiring.finding? wiring.stages target = ruleFinding? declared target := by
      rw [hstages]
      subst hsplit
      exact finding?_eq_ruleFinding? hnodup
    rw [List.foldl_cons, ih _ hsplit' hstages', hattach, hfinding, List.filterMap_cons]
    cases ruleFinding? declared target <;> simp

/-- The rules are reported one by one, in the order of the document. -/
theorem wiring_findings (h : WellFormedStages document.authored) :
    document.wiring.findings = document.stages.filterMap (ruleFinding? document.stages) := by
  have hnodup := ids_nodup h
  have hstart : document.authored.map Stage.markExplicit = document.authored.map
      fun stage => stage.markExplicit.claimed [] :=
    List.map_congr_left fun stage _ => (Stage.claimed_nil _).symm
  exact findings_foldl_attach _ hnodup (List.nil_append _).symm hstart

end DeclarativeDocument

/-! ## Targets -/

theorem target?_completed (correct : Bool) (action : Action) :
    (action.completed correct).target? = action.target? := by
  cases action with
  | exit outcome => cases outcome <;> rfl
  | goto target => rfl
  | branch target => rfl
  | loop => rfl

/-- A resolved option moves to where the authored one does; what is new moves to a stage. -/
theorem target?_resolution (declared : List DeclarativeStage) (parent : Stage)
    (option : StageOption) :
    (resolution declared parent option).1.target? = option.next.bind Action.target?
      ∨ option.next = none ∧ ∃ target ∈ declared.map fun stage => stage.id,
          (resolution declared parent option).1 = .goto target := by
  cases hnext : option.next with
  | some action =>
    left
    rw [resolution_of_next hnext]
    exact target?_completed _ action
  | none =>
    cases hclaim : claimant? declared (.ofCorrectness (parent.isCorrect option)) parent.id with
    | none =>
      left
      rw [resolution_of_unclaimed hnext hclaim]
      cases parent.isCorrect option <;> rfl
    | some target =>
      right
      obtain ⟨rule, hrule, -, rfl⟩ := exists_of_claimant? hclaim
      refine ⟨rfl, rule.id, List.mem_map_of_mem hrule, ?_⟩
      rw [resolution_of_claimant? hnext hclaim]

/-- What is said about a resolved option is what there is to say about the authored one. -/
theorem map_filter_target?_resolution {declared : List DeclarativeStage} {ids : List String}
    (hids : ∀ rule ∈ declared, rule.id ∈ ids) (stage : Stage) (option : StageOption) :
    ((resolution declared stage option).1.target?.filter fun target => decide (target ∉ ids)).map
          (Finding.unknownTransitionTarget stage.id)
      = targetFinding? ids stage option := by
  unfold targetFinding?
  rcases target?_resolution declared stage option with hsame | ⟨hnext, target, hmem, hgoto⟩
  · -- the target is the authored one, if there is any
    rw [hsame]
    cases option.next.bind Action.target? with
    | none => rfl
    | some target =>
      by_cases hstage : target ∈ ids
      · simp only [Option.filter_some, hstage, not_true_eq_false, decide_false, Bool.false_eq_true,
          if_false, if_true, Option.map_none]
      · simp only [Option.filter_some, hstage, not_false_eq_true, decide_true, if_true, if_false,
          Option.map_some]
  · -- a free option was led to a stage
    obtain ⟨rule, hrule, rfl⟩ := List.mem_map.mp hmem
    rw [hgoto, hnext]
    simp only [Action.target?, Option.filter_some, hids rule hrule, not_true_eq_false, decide_false,
      Bool.false_eq_true, if_false, Option.map_none, Option.bind_none]

theorem ids_resolved (declared : List DeclarativeStage) (stages : List Stage) :
    (stages.map (Stage.resolved declared)).map Stage.id = stages.map Stage.id := by
  rw [List.map_map]
  rfl

/-- Where rules lead to stages, only authored actions can move to something that is none. -/
theorem unknownTargets_resolved {declared : List DeclarativeStage} {stages : List Stage}
    (hids : ∀ rule ∈ declared, rule.id ∈ stages.map Stage.id) :
    unknownTargets (stages.map (Stage.resolved declared)) = targetFindings stages := by
  have hknown : (fun target => (stage? (stages.map (Stage.resolved declared)) target).isNone)
      = fun target => decide (target ∉ stages.map Stage.id) := by
    funext target
    rw [Bool.eq_iff_iff, Option.isNone_iff_eq_none, stage?_eq_none, ids_resolved,
      decide_eq_true_iff]
  rw [unknownTargets, targetFindings, hknown, List.flatMap_map]
  -- option by option
  refine List.flatMap_congr fun stage _ => ?_
  rw [Stage.targets, Stage.resolved, Stage.options_mapOptions, List.filterMap_map,
    List.filter_filterMap, List.map_filterMap]
  exact List.filterMap_congr fun option _ => map_filter_target?_resolution hids _ option

/-! ## Reachability -/

/-- An edge leaves the stage that is found under its source for one of the stages. -/
theorem StageMap.edge_ofStages {stages : List Stage} {source target : String} :
    (ofStages stages).Edge source target ↔ ∃ stage, stage? stages source = some stage
      ∧ target ∈ stage.targets ∧ target ∈ stages.map Stage.id := by
  simp only [Edge, has, get?_ofStages, stage?_isSome]

theorem unreachable_resolved {declared : List DeclarativeStage} (entry : String)
    (hnodup : (declared.map fun stage => stage.id).Nodup) :
    unreachable entry (declared.map fun stage => stage.toStage.resolved declared)
        ((declared.filter (DeclarativeStage.isDangling (declared.map fun stage => stage.id))).map
          fun stage => stage.id)
      = unreachableFindings declared entry := by
  -- as ids differ, the reported ids are those of the dangling stages
  have hreported : ∀ stage ∈ declared,
      ((declared.filter (DeclarativeStage.isDangling (declared.map fun stage => stage.id))).map
          fun stage => stage.id).contains stage.id
        = stage.isDangling (declared.map fun stage => stage.id) := by
    intro stage hstage
    rw [Bool.eq_iff_iff, List.contains_iff_mem, List.mem_map]
    constructor
    · rintro ⟨other, hother, hid⟩
      obtain ⟨hmem, hdangling⟩ := List.mem_filter.mp hother
      rwa [List.inj_on_of_nodup_map hnodup hmem hstage hid] at hdangling
    · intro hdangling
      exact ⟨stage, List.mem_filter.mpr ⟨hstage, hdangling⟩, rfl⟩
  simp only [unreachable, unreachableFindings, List.filter_map, List.map_map,
    contains_reachableFrom]
  refine congrArg₂ List.map rfl (List.filter_congr fun stage hstage => ?_)
  show (!_ && !(List.contains _ stage.id)) = _
  rw [hreported stage hstage]
  rfl

/-! ## Rules that compete -/

/-- The first stage with a rule is its claimant. -/
theorem claimant?_of_first {declared : List DeclarativeStage} {target : DeclarativeStage}
    {trigger : Trigger} {parentId : String}
    (hnodup : (declared.map fun stage => stage.id).Nodup) (htarget : target ∈ declared)
    (hrule : target.unlock = some (.after trigger parentId))
    (hfirst : ¬ ∃ earlier ∈ stagesBefore declared target,
      earlier.unlock = some (.after trigger parentId)) :
    claimant? declared trigger parentId = some target.id := by
  obtain ⟨earlier, later, rfl⟩ := List.append_of_mem htarget
  rw [stagesBefore_append hnodup] at hfirst
  have hnone : earlier.find? (fun rule => rule.unlock == some (.after trigger parentId))
      = none := by
    rw [List.find?_eq_none]
    intro rule hmem hmatch
    exact hfirst ⟨rule, hmem, by simpa using hmatch⟩
  rw [claimant?, List.find?_append, hnone, Option.none_or, List.find?_cons_of_pos (by simp [hrule])]
  rfl

/-- No two stages have the same condition, so that no rule competes with another one. -/
def RulesDiffer (declared : List DeclarativeStage) : Prop :=
  ∀ stage ∈ declared, ∀ other ∈ declared,
    stage.isUnconditional = false → other.unlock = stage.unlock → other = stage

instance (declared : List DeclarativeStage) : Decidable (RulesDiffer declared) :=
  inferInstanceAs (Decidable (∀ stage ∈ declared, ∀ other ∈ declared,
    stage.isUnconditional = false → other.unlock = stage.unlock → other = stage))

theorem isUnconditional_eq_false {stage : DeclarativeStage} :
    stage.isUnconditional = false
      ↔ ∃ trigger parentId, stage.unlock = some (.after trigger parentId) := by
  unfold DeclarativeStage.isUnconditional
  split <;> simp_all

namespace RulesDiffer

variable {declared : List DeclarativeStage} {target : DeclarativeStage} {trigger : Trigger}
  {parentId : String}

theorem eq_of_unlock (h : RulesDiffer declared) {other : DeclarativeStage}
    (htarget : target ∈ declared) (hother : other ∈ declared)
    (hrule : target.unlock = some (.after trigger parentId))
    (hsame : other.unlock = some (.after trigger parentId)) : other = target := by
  apply h target htarget other hother
  · exact isUnconditional_eq_false.mpr ⟨trigger, parentId, hrule⟩
  · rw [hsame, hrule]

/-- The stages before one have other conditions. -/
theorem not_before (h : RulesDiffer declared) (htarget : target ∈ declared)
    (hrule : target.unlock = some (.after trigger parentId)) :
    ¬ ∃ earlier ∈ stagesBefore declared target, earlier.unlock = some (.after trigger parentId) := by
  rintro ⟨earlier, hearlier, hsame⟩
  have hmem : earlier ∈ declared := (List.takeWhile_sublist _).subset hearlier
  have hne : earlier.id ≠ target.id := by simpa using List.mem_takeWhile_imp hearlier
  exact hne (congrArg (fun stage => stage.id) (h.eq_of_unlock htarget hmem hrule hsame))

end RulesDiffer

/-! ## All findings -/

namespace DeclarativeDocument

variable {document : DeclarativeDocument}

/-- A rule about which there is nothing to say has got an option of its parent. -/
theorem exists_wired_of_ruleFinding?_none (h : WellFormedStages document.authored)
    {target : DeclarativeStage} (htarget : target ∈ document.stages) {trigger : Trigger}
    {parentId : String} (hrule : target.unlock = some (.after trigger parentId))
    (hnone : ruleFinding? document.stages target = none) :
    ∃ parent ∈ document.settled, parent.id = parentId ∧ ∃ option ∈ parent.options,
      option.next = some (.goto target.id) ∧ option.nextSource = some trigger.source := by
  have hnodup := ids_nodup h
  simp only [ruleFinding?, hrule] at hnone
  cases hparent : stage? (document.stages.map fun stage => stage.toStage) parentId with
  | none =>
    rw [hparent] at hnone
    cases hnone
  | some parent =>
    obtain ⟨hmem, rfl⟩ := mem_and_id_of_stage? hparent
    obtain ⟨declared, hdeclared, rfl⟩ := List.mem_map.mp hmem
    simp only [hparent] at hnone
    split at hnone
    · cases hnone
    · split at hnone
      · cases hnone
      · next hfree =>
        -- some option is free, and no earlier stage has the same rule
        obtain ⟨hoption, hfirst⟩ := not_or.mp hfree
        push Not at hoption
        obtain ⟨option, hmemOption, hconcerns, hnext⟩ := hoption
        have hclaim := claimant?_of_first hnodup htarget hrule hfirst
        have htrigger := Trigger.concerns_iff.mp hconcerns
        rw [htrigger] at hclaim
        have hresolution := resolution_of_claimant?
          (Option.not_isSome_iff_eq_none.mp hnext) hclaim
        refine ⟨declared.toStage.resolved document.stages, ?_, rfl,
          option.resolved document.stages declared.toStage, List.mem_map_of_mem hmemOption, ?_⟩
        · rw [settled_eq_resolved h]
          exact List.mem_map.mpr ⟨declared, hdeclared, rfl⟩
        · rw [StageOption.resolved, hresolution, ← htrigger]
          exact ⟨rfl, rfl⟩

/-- The findings about a document are what there is to say about its entry, its rules, its targets
and its reachability, in this order. -/
theorem compile_findings {raw : Json} (h : DeclarativeDocument.schema raw = .accepted document) :
    document.compile.findings
      = entryFindings document.stages
        ++ document.stages.filterMap (ruleFinding? document.stages)
        ++ targetFindings document.authored
        ++ (match unconditionalIds document.stages with
            | [entry] => unreachableFindings document.stages entry
            | _ => []) := by
  have hstages := wellFormed_of_schema h
  have hnodup := ids_nodup hstages
  have hsettled := settled_eq_resolved hstages
  have htargets : unknownTargets document.settled = targetFindings document.authored := by
    rw [← unknownTargets_resolved, hsettled, authored, List.map_map]
    · rfl
    · intro rule hrule
      rw [ids_authored]
      exact List.mem_map_of_mem hrule
  rw [compile_eq_finish, wiring_findings hstages, wiring_dangling hstages, ← htargets, entryOf_eq,
    entryFindings]
  cases unconditionalIds document.stages with
  | nil =>
    -- without an entry, and with several, reachability is not looked at
    rw [finish_findings_error]
    simp
  | cons entry rest =>
    cases rest with
    | nil =>
      rw [finish_findings_ok, hsettled, unreachable_resolved entry hnodup]
      simp
    | cons second rest =>
      rw [finish_findings_error]
      simp

/-- Diagnostics are complete: every problem is reported once and in its place, and a rule that is
not reported has got an option of its parent. -/
theorem diagnostics_complete {raw : Json}
    (h : DeclarativeDocument.schema raw = .accepted document) :
    document.compile.findings
        = entryFindings document.stages
          ++ document.stages.filterMap (ruleFinding? document.stages)
          ++ targetFindings document.authored
          ++ (match unconditionalIds document.stages with
              | [entry] => unreachableFindings document.stages entry
              | _ => [])
      ∧ ∀ target ∈ document.stages, ∀ trigger parentId,
          target.unlock = some (.after trigger parentId) →
          ruleFinding? document.stages target = none →
          ∃ parent ∈ document.settled, parent.id = parentId ∧ ∃ option ∈ parent.options,
            option.next = some (.goto target.id) ∧ option.nextSource = some trigger.source := by
  refine ⟨compile_findings h, ?_⟩
  intro target htarget trigger parentId hrule hnone
  exact exists_wired_of_ruleFinding?_none (wellFormed_of_schema h) htarget hrule hnone

end DeclarativeDocument

/-- In the question with a detour, the second rule that waits for attempts is reported, and the
first one got an option. -/
theorem Detour.diagnostics : Detour.document.compile.findings = [.unlockShadowed "AGAIN" "ASK"]
    ∧ ∃ parent ∈ Detour.document.settled, parent.id = "ASK" ∧ ∃ option ∈ parent.options,
      option.next = some (.goto "TRY") ∧ option.nextSource = some .attemptsExceeded := by
  obtain ⟨hfindings, hwired⟩ := DeclarativeDocument.diagnostics_complete Detour.schema_raw
  refine ⟨hfindings.trans (by decide), ?_⟩
  exact hwired ⟨Detour.stage "TRY" [Detour.plain "a", { Detour.plain "b" with
      next := some (.goto "AGAIN") }] (some "a"), some (.after .attemptsExceeded "ASK")⟩
    (by decide) .attemptsExceeded "ASK" rfl (by decide)

end AdaptiveQuiz
