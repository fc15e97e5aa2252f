import AdaptiveQuiz.Flow.Wiring
import Mathlib.Data.List.Nodup

/-!
# Attaching rules

Rules are attached one after the other, each looking up its parent among the stages as the rules
before it left them. Here the loop is replaced by what it does to one option: an option that has no
action goes to the first of the rules on its stage whose trigger concerns it. The step lemma says
so for one rule, whether it is attached or reported, and the run lemma for all of them.

## Main definitions

* `Trigger.ofCorrectness`: the one trigger that concerns an option
* `claimant?`: the first rule with a trigger and a parent
* `StageOption.claimed`, `Stage.claimed`: what some rules do to an option and to a stage

## Main statements

* `Stage.claimed_cons`: one rule after the other
* `Wiring.attach_eq`, `Wiring.stages_foldl_attach`: one rule and all rules
-/

namespace AdaptiveQuiz

/-! ## Stages with changed options -/

namespace Stage

theorem mapOptions_mapOptions (stage : Stage) (f g : StageOption → StageOption) :
    (stage.mapOptions f).mapOptions g = stage.mapOptions (g ∘ f) := by
  simp [mapOptions, options]

theorem mapOptions_congr {stage : Stage} {f g : StageOption → StageOption}
    (h : ∀ option ∈ stage.options, f option = g option) :
    stage.mapOptions f = stage.mapOptions g := by
  have hoptions : stage.options.map f = stage.options.map g := List.map_congr_left h
  simp only [mapOptions, hoptions]

theorem mapOptions_eq_self {stage : Stage} {f : StageOption → StageOption}
    (h : ∀ option ∈ stage.options, f option = option) : stage.mapOptions f = stage := by
  have hoptions : stage.options.map f = stage.options :=
    (List.map_congr_left h).trans (List.map_id _)
  simp only [mapOptions, hoptions]
  rfl

end Stage

/-! ## Looking up stages -/

theorem mem_and_id_of_stage? {stages : List Stage} {id : String} {stage : Stage}
    (h : stage? stages id = some stage) : stage ∈ stages ∧ stage.id = id := by
  refine ⟨List.mem_of_find?_eq_some h, ?_⟩
  simpa using List.find?_some h

theorem stage?_eq_none {stages : List Stage} {id : String} :
    stage? stages id = none ↔ id ∉ stages.map Stage.id := by
  simp [stage?]

theorem stage?_isSome {stages : List Stage} {id : String} :
    (stage? stages id).isSome = true ↔ id ∈ stages.map Stage.id := by
  simp [stage?]

/-- A change of the stages that keeps their ids carries over to what is looked up. -/
theorem stage?_map {f : Stage → Stage} (hf : ∀ stage, (f stage).id = stage.id)
    (stages : List Stage) (id : String) :
    stage? (stages.map f) id = (stage? stages id).map f := by
  have hid : ((fun stage : Stage => stage.id == id) ∘ f) = fun stage => stage.id == id := by
    funext stage
    simp [hf]
  rw [stage?, stage?, List.find?_map, hid]

theorem eq_of_id_eq {stages : List Stage} (hnodup : (stages.map Stage.id).Nodup) {x y : Stage}
    (hx : x ∈ stages) (hy : y ∈ stages) (h : x.id = y.id) : x = y :=
  List.inj_on_of_nodup_map hnodup hx hy h

/-- A change of the options that keeps their ids carries over to what is looked up. -/
theorem Stage.option?_mapOptions {f : StageOption → StageOption}
    (hf : ∀ option, (f option).id = option.id) (stage : Stage) (id : String) :
    (stage.mapOptions f).option? id = (stage.option? id).map f := by
  have hid : ((fun option : StageOption => option.id == id) ∘ f) = fun option => option.id == id := by
    funext option
    simp [hf]
  rw [option?, options_mapOptions, List.find?_map, hid, option?]

/-- Where ids differ, every stage is found under its own. -/
theorem stage?_eq_some {stages : List Stage} (hnodup : (stages.map Stage.id).Nodup) {id : String}
    {stage : Stage} : stage? stages id = some stage ↔ stage ∈ stages ∧ stage.id = id := by
  constructor
  · exact mem_and_id_of_stage?
  · rintro ⟨hmem, rfl⟩
    cases hfound : stage? stages stage.id with
    | none => exact absurd (List.mem_map_of_mem hmem) (stage?_eq_none.mp hfound)
    | some found =>
      obtain ⟨hfoundMem, hid⟩ := mem_and_id_of_stage? hfound
      rw [eq_of_id_eq hnodup hfoundMem hmem hid]

/-! ## What concerns an option -/

namespace Trigger

/-- The trigger that concerns the options of a correctness. -/
def ofCorrectness (correct : Bool) : Trigger := if correct then .correct else .attemptsExceeded

theorem concerns_iff {trigger : Trigger} {parent : Stage} {option : StageOption} :
    trigger.concerns parent option = true ↔ trigger = ofCorrectness (parent.isCorrect option) := by
  cases trigger <;> cases hcorrect : parent.isCorrect option <;>
    simp [concerns, ofCorrectness, hcorrect]

end Trigger

/-- The first stage whose rule waits for a trigger on a parent. -/
def claimant? (rules : List DeclarativeStage) (trigger : Trigger) (parent : String) :
    Option String :=
  (rules.find? fun rule => rule.unlock == some (.after trigger parent)).map fun rule => rule.id

theorem claimant?_cons_of_eq {rule : DeclarativeStage} {rules : List DeclarativeStage}
    {trigger : Trigger} {parent : String} (h : rule.unlock = some (.after trigger parent)) :
    claimant? (rule :: rules) trigger parent = some rule.id := by
  simp [claimant?, h]

theorem claimant?_cons_of_ne {rule : DeclarativeStage} {rules : List DeclarativeStage}
    {trigger : Trigger} {parent : String} (h : rule.unlock ≠ some (.after trigger parent)) :
    claimant? (rule :: rules) trigger parent = claimant? rules trigger parent := by
  simp [claimant?, h]

theorem claimant?_eq_none {rules : List DeclarativeStage} {trigger : Trigger} {parent : String} :
    claimant? rules trigger parent = none
      ↔ ∀ rule ∈ rules, rule.unlock ≠ some (.after trigger parent) := by
  simp [claimant?]

/-- A claimant is one of the stages that have the rule. -/
theorem exists_of_claimant? {rules : List DeclarativeStage} {trigger : Trigger}
    {parent target : String} (h : claimant? rules trigger parent = some target) :
    ∃ rule ∈ rules, rule.unlock = some (.after trigger parent) ∧ rule.id = target := by
  obtain ⟨rule, hfind, hid⟩ := Option.map_eq_some_iff.mp h
  exact ⟨rule, List.mem_of_find?_eq_some hfind, by simpa using List.find?_some hfind, hid⟩

/-! ## What rules do to an option -/

/-- An option that has no action goes to the first rule that waits for an answer like it. -/
def StageOption.claimed (rules : List DeclarativeStage) (parent : Stage) (option : StageOption) :
    StageOption :=
  match option.next, claimant? rules (.ofCorrectness (parent.isCorrect option)) parent.id with
  | none, some target =>
    { option with
      next := some (.goto target)
      nextSource := some (Trigger.ofCorrectness (parent.isCorrect option)).source }
  | _, _ => option

/-- A stage after some rules were attached. -/
def Stage.claimed (rules : List DeclarativeStage) (stage : Stage) : Stage :=
  stage.mapOptions (StageOption.claimed rules stage)

namespace StageOption

theorem claimed_of_next {rules : List DeclarativeStage} {parent : Stage} {option : StageOption}
    {action : Action} (h : option.next = some action) : option.claimed rules parent = option := by
  simp [claimed, h]

theorem claimed_of_claimant?_none {rules : List DeclarativeStage} {parent : Stage}
    {option : StageOption}
    (h : claimant? rules (.ofCorrectness (parent.isCorrect option)) parent.id = none) :
    option.claimed rules parent = option := by
  unfold claimed
  rw [h]
  split
  · next hsome => cases hsome
  · rfl

theorem claimed_of_claimant? {rules : List DeclarativeStage} {parent : Stage}
    {option : StageOption} {target : String} (hnext : option.next = none)
    (h : claimant? rules (.ofCorrectness (parent.isCorrect option)) parent.id = some target) :
    option.claimed rules parent = { option with
      next := some (.goto target)
      nextSource := some (Trigger.ofCorrectness (parent.isCorrect option)).source } := by
  simp [claimed, hnext, h]

/-- A claimed option is one that had an action or found a rule. -/
theorem next_claimed_isSome {rules : List DeclarativeStage} {parent : Stage}
    {option : StageOption} :
    (option.claimed rules parent).next.isSome = true ↔ option.next.isSome = true
      ∨ (claimant? rules (.ofCorrectness (parent.isCorrect option)) parent.id).isSome = true := by
  cases hnext : option.next with
  | some action => simp [claimed_of_next hnext, hnext]
  | none =>
    cases hclaim : claimant? rules (.ofCorrectness (parent.isCorrect option)) parent.id with
    | none => simp [claimed_of_claimant?_none hclaim, hnext]
    | some target => simp [claimed_of_claimant? hnext hclaim]

/-- Whoever comes first keeps the option. -/
theorem claimed_claimed (rule : DeclarativeStage) (rules : List DeclarativeStage) (parent : Stage)
    (option : StageOption) :
    (option.claimed [rule] parent).claimed rules parent
      = option.claimed (rule :: rules) parent := by
  cases hnext : option.next with
  | some action => rw [claimed_of_next hnext, claimed_of_next hnext, claimed_of_next hnext]
  | none =>
    by_cases hrule : rule.unlock
        = some (.after (.ofCorrectness (parent.isCorrect option)) parent.id)
    · -- the rule takes the option, and the others find it taken
      rw [claimed_of_claimant? hnext (claimant?_cons_of_eq hrule),
        claimed_of_claimant? hnext (claimant?_cons_of_eq hrule), claimed_of_next rfl]
    · -- the rule does not wait for this option, so it makes no difference
      have hsingle : claimant? [rule] (.ofCorrectness (parent.isCorrect option)) parent.id
          = none := claimant?_cons_of_ne hrule
      rw [claimed_of_claimant?_none hsingle]
      unfold claimed
      rw [claimant?_cons_of_ne hrule]

end StageOption

namespace Stage

@[simp] theorem claimed_nil (stage : Stage) : stage.claimed [] = stage :=
  mapOptions_eq_self fun _ _ => StageOption.claimed_of_claimant?_none rfl

/-- Attaching one rule and then others is attaching all of them. -/
theorem claimed_cons (rule : DeclarativeStage) (rules : List DeclarativeStage) (stage : Stage) :
    (stage.claimed [rule]).claimed rules = stage.claimed (rule :: rules) := by
  have hoption : StageOption.claimed rules (stage.claimed [rule])
      = StageOption.claimed rules stage := rfl
  rw [claimed, hoption, claimed, mapOptions_mapOptions, claimed]
  exact mapOptions_congr fun option _ => StageOption.claimed_claimed rule rules stage option

theorem claimed_append (earlier later : List DeclarativeStage) (stage : Stage) :
    (stage.claimed earlier).claimed later = stage.claimed (earlier ++ later) := by
  induction earlier generalizing stage with
  | nil => rw [claimed_nil, List.nil_append]
  | cons rule earlier ih =>
    rw [List.cons_append, ← claimed_cons, ih, claimed_cons]

/-- A rule without a condition claims nothing. -/
theorem claimed_of_unconditional {rule : DeclarativeStage} (stage : Stage)
    (h : ∀ trigger parent, rule.unlock ≠ some (.after trigger parent)) :
    stage.claimed [rule] = stage := by
  refine mapOptions_eq_self fun option _ => StageOption.claimed_of_claimant?_none ?_
  exact claimant?_eq_none.mpr fun other hother => by
    rw [List.mem_singleton.mp hother]
    exact h _ _

/-- A rule changes its parent alone. -/
theorem claimed_of_id_ne {rule : DeclarativeStage} {trigger : Trigger} {parentId : String}
    (stage : Stage) (hrule : rule.unlock = some (.after trigger parentId))
    (hne : stage.id ≠ parentId) : stage.claimed [rule] = stage := by
  refine mapOptions_eq_self fun option _ => StageOption.claimed_of_claimant?_none ?_
  refine claimant?_eq_none.mpr fun other hother heq => hne ?_
  rw [List.mem_singleton.mp hother, hrule] at heq
  cases heq
  rfl

/-- A rule claims the free options of its parent that its trigger concerns. -/
theorem claim_eq_claimed {rule : DeclarativeStage} {trigger : Trigger} (stage : Stage)
    (hrule : rule.unlock = some (.after trigger stage.id)) :
    stage.claim trigger rule.id = stage.claimed [rule] := by
  refine mapOptions_congr fun option _ => ?_
  -- the rule is the claimant of the options that its trigger concerns, and of no others
  by_cases hconcerns : trigger = .ofCorrectness (stage.isCorrect option)
  · have hclaim : claimant? [rule] (.ofCorrectness (stage.isCorrect option)) stage.id
        = some rule.id := claimant?_cons_of_eq (hconcerns ▸ hrule)
    cases hnext : option.next with
    | some action => simp [StageOption.claimed_of_next hnext]
    | none =>
      rw [StageOption.claimed_of_claimant? hnext hclaim,
        if_pos (by simp [Trigger.concerns_iff.mpr hconcerns]), ← hconcerns]
  · have hclaim : claimant? [rule] (.ofCorrectness (stage.isCorrect option)) stage.id = none := by
      refine claimant?_eq_none.mpr fun other hother heq => hconcerns ?_
      rw [List.mem_singleton.mp hother, hrule] at heq
      injection heq with heq
      injection heq
    rw [StageOption.claimed_of_claimant?_none hclaim, if_neg]
    simp only [Bool.and_eq_true, Trigger.concerns_iff]
    exact fun h => hconcerns h.1

/-- Where no option is free there is nothing to claim. -/
theorem claim_eq_self {stage : Stage} {trigger : Trigger} {target : String}
    (h : ∀ option ∈ stage.options, trigger.concerns stage option = true →
      option.next.isSome = true) : stage.claim trigger target = stage := by
  refine mapOptions_eq_self fun option hoption => if_neg fun hfree => ?_
  obtain ⟨hconcerns, hnone⟩ := Bool.and_eq_true_iff.mp hfree
  have hsome := h option hoption hconcerns
  rw [Option.isNone_iff_eq_none.mp hnone] at hsome
  cases hsome

end Stage

/-! ## What is reported -/

/-- Whether a rule waits for something that is not a stage. -/
def DeclarativeStage.isDangling (ids : List String) (rule : DeclarativeStage) : Bool :=
  match rule.unlock with
  | some (.after _ parentId) => !ids.contains parentId
  | _ => false

/-- What is said when a stage cannot be attached to its parent, if there is something to say. -/
def futility? (target : String) (trigger : Trigger) (parent : Stage) : Option Finding :=
  let candidates := parent.options.filter (trigger.concerns parent)
  if trigger = .correct && candidates.isEmpty then some (.noCorrectOption target parent.id)
  else if candidates.all (·.next.isSome) then some (.unlockShadowed target parent.id)
  else none

/-- If nothing is said, then an option that the trigger concerns is free, and if something is said,
then none is. -/
theorem futility?_isSome {target : String} {trigger : Trigger} {parent : Stage} :
    (futility? target trigger parent).isSome = true ↔ ∀ option ∈ parent.options,
      trigger.concerns parent option = true → option.next.isSome = true := by
  have hall : (parent.options.filter (trigger.concerns parent)).all (·.next.isSome) = true
      ↔ ∀ option ∈ parent.options, trigger.concerns parent option = true →
        option.next.isSome = true := by
    simp only [List.all_eq_true, List.mem_filter, and_imp]
  simp only [futility?]
  split
  · next hnone =>
    -- without candidates there is no free one among them
    have hempty := List.isEmpty_iff.mp (Bool.and_eq_true_iff.mp hnone).2
    rw [hempty] at hall
    simpa using hall.mp rfl
  · split
    · next hwired => simpa using hall.mp hwired
    · next hfree => simpa using fun h => hfree (hall.mpr h)

namespace Wiring

/-- What is reported about one rule. -/
def finding? (stages : List Stage) (rule : DeclarativeStage) : Option Finding :=
  match rule.unlock with
  | some (.after trigger parentId) =>
    match stage? stages parentId with
    | some parent => futility? rule.id trigger parent
    | none => some (.missingDependency rule.id parentId)
  | _ => none

/-- Attaching to a parent lets its free options be claimed. Where that is reported as futile there
is none, so the parent stays as it is. -/
theorem attachTo_eq (wiring : Wiring) (target : String) (trigger : Trigger) {parent : Stage}
    (hnodup : (wiring.stages.map Stage.id).Nodup) (hparent : parent ∈ wiring.stages) :
    wiring.attachTo target trigger parent =
      { wiring with
        stages := wiring.stages.map fun stage =>
          if stage.id = parent.id then stage.claim trigger target else stage
        findings := wiring.findings ++ (futility? target trigger parent).toList } := by
  -- a report means that there is nothing to change
  have hfutile : (futility? target trigger parent).isSome = true →
      (wiring.stages.map fun stage =>
        if stage.id = parent.id then stage.claim trigger target else stage) = wiring.stages := by
    intro hfinding
    refine (List.map_congr_left fun stage hstage => ?_).trans (List.map_id _)
    by_cases hid : stage.id = parent.id
    · rw [if_pos hid, eq_of_id_eq hnodup hstage hparent hid]
      exact Stage.claim_eq_self (futility?_isSome.mp hfinding)
    · rw [if_neg hid]
      rfl
  simp only [attachTo]
  split
  · next hnone =>
    have hfinding : futility? target trigger parent = some (.noCorrectOption target parent.id) :=
      if_pos hnone
    rw [hfutile (by rw [hfinding]; rfl), hfinding]
    rfl
  · next hsome =>
    split
    · next hwired =>
      have hfinding : futility? target trigger parent = some (.unlockShadowed target parent.id) :=
        (if_neg hsome).trans (if_pos hwired)
      rw [hfutile (by rw [hfinding]; rfl), hfinding]
      rfl
    · next hfree =>
      have hfinding : futility? target trigger parent = none :=
        (if_neg hsome).trans (if_neg hfree)
      rw [hfinding]
      simp

/-- All that one rule does: it claims what it can get, and is reported if that is nothing. -/
theorem attach_eq (wiring : Wiring) (rule : DeclarativeStage)
    (hnodup : (wiring.stages.map Stage.id).Nodup) :
    wiring.attach rule =
      { stages := wiring.stages.map (Stage.claimed [rule])
        findings := wiring.findings ++ (finding? wiring.stages rule).toList
        dangling := wiring.dangling ++ ([rule].filter
          (DeclarativeStage.isDangling (wiring.stages.map Stage.id))).map (·.id) } := by
  unfold attach
  split
  -- without a rule, and with one that always holds, nothing is claimed
  · next hrule =>
    rw [List.map_id'' fun stage => stage.claimed_of_unconditional (by simp [hrule])]
    simp [finding?, DeclarativeStage.isDangling, hrule]
  · next hrule =>
    rw [List.map_id'' fun stage => stage.claimed_of_unconditional (by simp [hrule])]
    simp [finding?, DeclarativeStage.isDangling, hrule]
  -- with a condition, the parent alone is changed
  · next trigger parentId hrule =>
    have hstage : Stage.claimed [rule] = fun stage : Stage =>
        if stage.id = parentId then stage.claim trigger rule.id else stage := by
      funext stage
      by_cases hid : stage.id = parentId
      · rw [if_pos hid, Stage.claim_eq_claimed stage (hid ▸ hrule)]
      · rw [if_neg hid, Stage.claimed_of_id_ne stage hrule hid]
    split
    · next parent hparent =>
      obtain ⟨hmem, rfl⟩ := mem_and_id_of_stage? hparent
      rw [attachTo_eq wiring rule.id trigger hnodup hmem, hstage]
      have hexists : parent.id ∈ wiring.stages.map Stage.id := List.mem_map_of_mem hmem
      simp [finding?, DeclarativeStage.isDangling, hrule, hparent, hexists]
    · next hmissing =>
      have habsent := stage?_eq_none.mp hmissing
      have hsame : wiring.stages.map (Stage.claimed [rule]) = wiring.stages := by
        refine (List.map_congr_left fun stage hmem => ?_).trans (List.map_id _)
        refine Stage.claimed_of_id_ne stage hrule ?_
        rintro rfl
        exact habsent (List.mem_map_of_mem hmem)
      rw [hsame]
      simp [finding?, DeclarativeStage.isDangling, hrule, hmissing, report, habsent]

/-- All rules together do to every stage what they claim there. -/
theorem stages_foldl_attach (rules : List DeclarativeStage) (wiring : Wiring)
    (hnodup : (wiring.stages.map Stage.id).Nodup) :
    (rules.foldl attach wiring).stages = wiring.stages.map (Stage.claimed rules) := by
  induction rules generalizing wiring with
  | nil =>
    rw [List.map_id'' Stage.claimed_nil]
    rfl
  | cons rule rules ih =>
    rw [List.foldl_cons, attach_eq wiring rule hnodup, ih, List.map_map]
    · exact List.map_congr_left fun stage _ => Stage.claimed_cons rule rules stage
    · rw [List.map_map]
      exact hnodup

/-- The rules without a parent are the dangling ones, in their order. -/
theorem dangling_foldl_attach (rules : List DeclarativeStage) (wiring : Wiring)
    (hnodup : (wiring.stages.map Stage.id).Nodup) :
    (rules.foldl attach wiring).dangling = wiring.dangling
      ++ (rules.filter (DeclarativeStage.isDangling (wiring.stages.map Stage.id))).map (·.id) := by
  induction rules generalizing wiring with
  | nil => simp
  | cons rule rules ih =>
    -- attaching keeps the ids, so what dangles does not depend on the rules before
    have hids : (wiring.stages.map (Stage.claimed [rule])).map Stage.id
        = wiring.stages.map Stage.id := by
      rw [List.map_map]
      rfl
    rw [List.foldl_cons, attach_eq wiring rule hnodup, ih _ (hids ▸ hnodup), hids,
      List.append_assoc, ← List.map_append, ← List.filter_append]
    rfl

end Wiring

end AdaptiveQuiz
