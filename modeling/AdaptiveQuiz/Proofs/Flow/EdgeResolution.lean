import AdaptiveQuiz.Proofs.Flow.Compilation

/-!
# Edge resolution

What an option of a document with unlock rules leads to can be said of the option alone, without
any order of passes: an authored action stays, a free option goes to the first stage in the document
whose rule waits for an answer like it, and what nobody waits for exits or loops. Compilation does
exactly this, and it changes nothing else.

## Main definitions

* `resolution`: the action of an option and where it is from
* `Stage.resolved`: a stage with the resolution of every option
* `Stage.Becomes`: what becomes of a stage, option by option and field by field

## Main statements

* `DeclarativeDocument.settled_eq_resolved`: compilation resolves every option
* `Stage.becomes_mapOptions`: a change of the options alone leaves the rest of a stage as it is
-/

namespace AdaptiveQuiz

/-! ## What an option leads to -/

/-- An exit without outcome takes it from the correctness of its option. -/
def Action.completed (correct : Bool) : Action → Action
  | .exit none => .exit (some (if correct then .pass else .fail))
  | action => action

/-- What an option of a stage leads to, and where its action is from. It is correct if it is flagged
so, or if the answer key names it. -/
def resolution (declared : List DeclarativeStage) (parent : Stage) (option : StageOption) :
    Action × EdgeSource :=
  let correct : Bool :=
    decide (option.isCorrect = some true ∨ parent.answerKey.correctOptionId = some option.id)
  match option.next with
  | some action => (action.completed correct, option.nextSource.getD .explicit)
  | none =>
    if correct then
      match claimant? declared .correct parent.id with
      | some target => (.goto target, .afterCorrect)
      | none => (.exit (some .pass), .default)
    else
      match claimant? declared .attemptsExceeded parent.id with
      | some target => (.goto target, .attemptsExceeded)
      | none => (.loop, .default)

/-- The option with its resolution. -/
def StageOption.resolved (declared : List DeclarativeStage) (parent : Stage)
    (option : StageOption) : StageOption :=
  { option with
    next := some (resolution declared parent option).1
    nextSource := some (resolution declared parent option).2 }

/-- The stage with the resolution of every option. -/
def Stage.resolved (declared : List DeclarativeStage) (stage : Stage) : Stage :=
  stage.mapOptions (StageOption.resolved declared stage)

/-! ## What becomes of a stage -/

/-- A compiled option leads where it is said to and notes where that is from. All its other fields
are the authored ones. -/
structure StageOption.Becomes (resolution : Action × EdgeSource)
    (authored compiled : StageOption) : Prop where
  id_eq : compiled.id = authored.id
  text_eq : compiled.text = authored.text
  latex_eq : compiled.latex = authored.latex
  isCorrect_eq : compiled.isCorrect = authored.isCorrect
  feedback_eq : compiled.feedback = authored.feedback
  diagnostic_eq : compiled.diagnostic = authored.diagnostic
  next_eq : compiled.next = some resolution.1
  nextSource_eq : compiled.nextSource = some resolution.2

/-- A compiled stage has the options of the authored one in their order, each with its resolution,
and is otherwise the authored one. -/
structure Stage.Becomes (resolve : StageOption → Action × EdgeSource)
    (authored compiled : Stage) : Prop where
  id_eq : compiled.id = authored.id
  intent_eq : compiled.intent = authored.intent
  prompt_eq : compiled.prompt = authored.prompt
  instruction_eq : compiled.instruction = authored.instruction
  kind_eq : compiled.interaction.kind = authored.interaction.kind
  shuffle_eq : compiled.interaction.choices.shuffle = authored.interaction.choices.shuffle
  singleSelect_eq :
    compiled.interaction.choices.singleSelect = authored.interaction.choices.singleSelect
  answerKey_eq : compiled.answerKey = authored.answerKey
  options_become :
    List.Forall₂ (fun option => StageOption.Becomes (resolve option) option)
      authored.options compiled.options

/-- If a function makes of every option what is to become of it, then so it is with the stage. -/
theorem Stage.becomes_mapOptions {resolve : StageOption → Action × EdgeSource}
    {f : StageOption → StageOption}
    (h : ∀ option : StageOption, option.Becomes (resolve option) (f option))
    (stage : Stage) : stage.Becomes resolve (stage.mapOptions f) := by
  have hoptions : List.Forall₂ (fun option => StageOption.Becomes (resolve option) option)
      stage.options (stage.mapOptions f).options := by
    rw [options_mapOptions, List.forall₂_map_right_iff, List.forall₂_same]
    exact fun option _ => h option
  exact ⟨rfl, rfl, rfl, rfl, rfl, rfl, rfl, rfl, hoptions⟩

theorem StageOption.becomes_resolved (declared : List DeclarativeStage) (parent : Stage)
    (option : StageOption) :
    option.Becomes (resolution declared parent option) (option.resolved declared parent) :=
  ⟨rfl, rfl, rfl, rfl, rfl, rfl, rfl, rfl⟩

/-- With its options resolved, a stage has become what compilation is to make of it. -/
theorem Stage.becomes_resolved (declared : List DeclarativeStage) (stage : Stage) :
    stage.Becomes (resolution declared stage) (stage.resolved declared) :=
  becomes_mapOptions (StageOption.becomes_resolved declared stage) stage

/-! ## The passes over one option -/

theorem Stage.isCorrect_eq_decide (stage : Stage) (option : StageOption) :
    stage.isCorrect option = decide (option.isCorrect = some true
      ∨ stage.answerKey.correctOptionId = some option.id) := by
  rw [Bool.eq_iff_iff]
  simp [Stage.isCorrect]

/-- An authored option keeps its action and its source, up to what they leave open. -/
theorem resolution_of_next {declared : List DeclarativeStage} {parent : Stage}
    {option : StageOption} {action : Action} (h : option.next = some action) :
    resolution declared parent option
      = (action.completed (parent.isCorrect option), option.nextSource.getD .explicit) := by
  rw [Stage.isCorrect_eq_decide]
  simp only [resolution, h]

/-- A free option goes to the first rule that waits for an answer like it. -/
theorem resolution_of_claimant? {declared : List DeclarativeStage} {parent : Stage}
    {option : StageOption} {target : String} (hnext : option.next = none)
    (h : claimant? declared (.ofCorrectness (parent.isCorrect option)) parent.id = some target) :
    resolution declared parent option
      = (.goto target, (Trigger.ofCorrectness (parent.isCorrect option)).source) := by
  rw [Stage.isCorrect_eq_decide] at h ⊢
  simp only [resolution, hnext]
  split
  · next hcorrect =>
    rw [hcorrect] at h ⊢
    simp only [Trigger.ofCorrectness, if_true] at h ⊢
    rw [h]
    rfl
  · next hincorrect =>
    rw [Bool.not_eq_true] at hincorrect
    rw [hincorrect] at h ⊢
    simp only [Trigger.ofCorrectness, Bool.false_eq_true, if_false] at h ⊢
    rw [h]
    rfl

/-- A free option that no rule waits for exits with a pass or loops. -/
theorem resolution_of_unclaimed {declared : List DeclarativeStage} {parent : Stage}
    {option : StageOption} (hnext : option.next = none)
    (h : claimant? declared (.ofCorrectness (parent.isCorrect option)) parent.id = none) :
    resolution declared parent option
      = (if parent.isCorrect option then .exit (some .pass) else .loop, .default) := by
  rw [Stage.isCorrect_eq_decide] at h ⊢
  simp only [resolution, hnext]
  split
  · next hcorrect =>
    rw [hcorrect] at h
    simp only [Trigger.ofCorrectness, if_true] at h
    rw [h]
  · next hincorrect =>
    rw [Bool.not_eq_true] at hincorrect
    rw [hincorrect] at h
    simp only [Trigger.ofCorrectness, Bool.false_eq_true, if_false] at h
    rw [h]

namespace StageOption

theorem markExplicit_of_next {option : StageOption} {action : Action}
    (h : option.next = some action) :
    option.markExplicit
      = { option with nextSource := some (option.nextSource.getD .explicit) } := by
  cases option with
  | mk id text latex isCorrect feedback diagnostic next nextSource =>
    cases nextSource <;> simp_all [markExplicit]

theorem markExplicit_of_next_none {option : StageOption} (h : option.next = none) :
    option.markExplicit = option := by
  simp [markExplicit, h]

theorem next_markExplicit (option : StageOption) : option.markExplicit.next = option.next := by
  unfold markExplicit
  split <;> rfl

theorem isCorrect_markExplicit (stage : Stage) (option : StageOption) :
    stage.isCorrect option.markExplicit = stage.isCorrect option := by
  unfold markExplicit
  split <;> rfl

theorem settle_of_next {option : StageOption} {action : Action} (correct : Bool)
    (h : option.next = some action) :
    option.settle correct = { option with next := some (action.completed correct) } := by
  cases option with
  | mk id text latex isCorrect feedback diagnostic next nextSource =>
    cases h
    cases action with
    | exit outcome => cases outcome <;> rfl
    | goto target => rfl
    | branch target => rfl
    | loop => rfl

theorem settle_of_next_none {option : StageOption} (correct : Bool) (h : option.next = none) :
    option.settle correct = { option with
      next := some (if correct then .exit (some .pass) else .loop)
      nextSource := some .default } := by
  simp [settle, h]

/-- Marking, claiming and settling an option resolves it. -/
theorem settle_claimed_markExplicit (declared : List DeclarativeStage) (parent : Stage)
    (option : StageOption) :
    (option.markExplicit.claimed declared parent).settle (parent.isCorrect option)
      = option.resolved declared parent := by
  cases hnext : option.next with
  | some action =>
    -- no rule can claim it: it is marked and completed
    have hmarked : option.markExplicit.next = some action :=
      (next_markExplicit option).trans hnext
    rw [claimed_of_next hmarked, settle_of_next _ hmarked, markExplicit_of_next hnext, resolved,
      resolution_of_next hnext]
  | none =>
    -- there is nothing to mark: it is claimed, or gets the default
    rw [markExplicit_of_next_none hnext, resolved]
    cases hclaim : claimant? declared (.ofCorrectness (parent.isCorrect option)) parent.id with
    | none =>
      rw [claimed_of_claimant?_none hclaim, settle_of_next_none _ hnext,
        resolution_of_unclaimed hnext hclaim]
    | some target =>
      rw [claimed_of_claimant? hnext hclaim, settle_of_next _ rfl,
        resolution_of_claimant? hnext hclaim]
      rfl

/-- What decides about correctness is left alone by marking and claiming. -/
theorem isCorrect_claimed_markExplicit (declared : List DeclarativeStage) (parent : Stage)
    (option : StageOption) :
    parent.isCorrect (option.markExplicit.claimed declared parent) = parent.isCorrect option := by
  have hclaim : parent.isCorrect (option.markExplicit.claimed declared parent)
      = parent.isCorrect option.markExplicit := by
    unfold claimed
    split <;> rfl
  rw [hclaim, isCorrect_markExplicit]

end StageOption

/-- The passes over a stage resolve all its options. -/
theorem Stage.settle_claimed_markExplicit (declared : List DeclarativeStage) (stage : Stage) :
    (stage.markExplicit.claimed declared).settle = stage.resolved declared := by
  rw [Stage.settle, Stage.claimed, Stage.markExplicit, mapOptions_mapOptions, mapOptions_mapOptions,
    Stage.resolved]
  refine mapOptions_congr fun option _ => ?_
  show (option.markExplicit.claimed declared stage).settle
    (stage.isCorrect (option.markExplicit.claimed declared stage)) = _
  rw [StageOption.isCorrect_claimed_markExplicit, StageOption.settle_claimed_markExplicit]

/-! ## Documents -/

namespace DeclarativeDocument

variable {document : DeclarativeDocument}

/-- Compilation resolves every option of every stage and changes nothing else. -/
theorem settled_eq_resolved (h : WellFormedStages document.authored) :
    document.settled = document.stages.map fun stage => stage.toStage.resolved document.stages := by
  rw [settled, wiring_stages h, List.map_map, authored, List.map_map]
  exact List.map_congr_left fun stage _ =>
    Stage.settle_claimed_markExplicit document.stages stage.toStage

/-- An option of a flow is an authored one with its resolution, and so is its stage. -/
theorem exists_resolved_of_mem {flow : Flow} (h : WellFormedStages document.authored)
    (hflow : document.compile.flow = some flow) {stage : Stage} (hstage : stage ∈ flow.stages)
    {option : StageOption} (hoption : option ∈ stage.options) :
    ∃ declared ∈ document.stages, stage = declared.toStage.resolved document.stages
      ∧ ∃ original ∈ declared.options,
        option = original.resolved document.stages declared.toStage := by
  rw [(flow_eq_of_compile hflow).2, settled_eq_resolved h] at hstage
  obtain ⟨declared, hdeclared, rfl⟩ := List.mem_map.mp hstage
  obtain ⟨original, horiginal, rfl⟩ := List.mem_map.mp hoption
  exact ⟨declared, hdeclared, rfl, original, horiginal, rfl⟩

/-- Every option of a compiled flow is the authored one with its resolution: the stages are the
authored ones in their order, and field by field nothing else becomes of them. -/
theorem flow_eq_resolved {raw : Json} {flow : Flow}
    (h : DeclarativeDocument.schema raw = .accepted document)
    (hflow : document.compile.flow = some flow) :
    flow.itemId = document.itemId ∧ flow.atomId = document.atomId
      ∧ flow.stages
        = document.stages.map (fun stage => stage.toStage.resolved document.stages)
      ∧ List.Forall₂ (fun declared compiled =>
          declared.toStage.Becomes (resolution document.stages declared.toStage) compiled)
        document.stages flow.stages := by
  obtain ⟨-, hparts⟩ := flow_eq_of_compile hflow
  have hstages : flow.stages
      = document.stages.map fun stage => stage.toStage.resolved document.stages := by
    rw [hparts]
    exact settled_eq_resolved (wellFormed_of_schema h)
  refine ⟨by rw [hparts], by rw [hparts], hstages, ?_⟩
  rw [hstages, List.forall₂_map_right_iff, List.forall₂_same]
  exact fun declared _ => Stage.becomes_resolved document.stages declared.toStage

end DeclarativeDocument

/-! ## A question with a detour

In this question an option gets its action in every way there is. Both `TRY` and `AGAIN` wait for
attempts on `ASK`, so the free incorrect option of `ASK`, whose noted source is out of date, goes to
the first of them. -/

namespace Detour

/-- An option as authored. -/
def rawOption (id : String) (more : Fields) : Json :=
  .object ([("id", .text id), ("text", .text id)] ++ more)

/-- A stage as authored. -/
def rawStage (id : String) (options : List Json) (more : Fields) : Json :=
  .object ([("stage_id", .text id), ("prompt", .object [("text", .text id)]),
    ("interaction", .object [("type", .text "mcq_concept"),
      ("config", .object [("options", .array options)])])] ++ more)

/-- An unlock rule that waits for something on `ASK`. -/
def rawRule (condition : String) : Fields :=
  [("unlock_logic", .object [("show_when", .text condition), ("depends_on_stage_id", .text "ASK")])]

/-- The question as authored. -/
def raw : Json :=
  .object [("item_id", .text "detour"), ("stages", .array [
    rawStage "ASK" [rawOption "a" [("is_correct", .bool true)],
      rawOption "b" [("next", .object [("type", .text "exit")])],
      rawOption "c" [("next_source", .text "default")]] [],
    rawStage "TRY" [rawOption "a" [],
      rawOption "b" [("next", .object [("type", .text "goto_stage"), ("target", .text "AGAIN")])]]
      (("answer_key", .object [("correct_option_id", .text "a")])
        :: rawRule "after_stage_attempts_exceeded"),
    rawStage "AGAIN" [rawOption "a" [("is_correct", .bool true)], rawOption "b" []]
      (rawRule "after_stage_attempts_exceeded"),
    rawStage "LAST" [rawOption "a" [("is_correct", .bool true)], rawOption "b" []]
      (rawRule "after_stage_correct")])]

/-- An option without any extras. -/
def plain (id : String) : StageOption := ⟨id, id, none, none, none, none, none, none⟩

/-- A stage that offers some options. -/
def stage (id : String) (options : List StageOption) (answer : Option String) : Stage :=
  ⟨id, none, ⟨id, none, none⟩, none, ⟨.concept, ⟨options, false, true⟩⟩, ⟨answer, []⟩⟩

/-- The question as it is read. -/
def document : DeclarativeDocument where
  itemId := some "detour"
  atomId := none
  difficulty := none
  contextTags := []
  stages := [
    ⟨stage "ASK" [{ plain "a" with isCorrect := some true },
      { plain "b" with next := some (.exit none) },
      { plain "c" with nextSource := some .default }] none, none⟩,
    ⟨stage "TRY" [plain "a", { plain "b" with next := some (.goto "AGAIN") }] (some "a"),
      some (.after .attemptsExceeded "ASK")⟩,
    ⟨stage "AGAIN" [{ plain "a" with isCorrect := some true }, plain "b"] none,
      some (.after .attemptsExceeded "ASK")⟩,
    ⟨stage "LAST" [{ plain "a" with isCorrect := some true }, plain "b"] none,
      some (.after .correct "ASK")⟩]

theorem schema_raw : DeclarativeDocument.schema raw = .accepted document := by decide

/-- The stages that the question is compiled to. The exit of `ASK` fails, as its option is
incorrect, and the note that a free option brought along is replaced. -/
def compiled : List Stage := [
  stage "ASK" [
    { plain "a" with
      isCorrect := some true, next := some (.goto "LAST"), nextSource := some .afterCorrect },
    { plain "b" with next := some (.exit (some .fail)), nextSource := some .explicit },
    { plain "c" with next := some (.goto "TRY"), nextSource := some .attemptsExceeded }] none,
  stage "TRY" [
    { plain "a" with next := some (.exit (some .pass)), nextSource := some .default },
    { plain "b" with next := some (.goto "AGAIN"), nextSource := some .explicit }] (some "a"),
  stage "AGAIN" [
    { plain "a" with
      isCorrect := some true, next := some (.exit (some .pass)), nextSource := some .default },
    { plain "b" with next := some .loop, nextSource := some .default }] none,
  stage "LAST" [
    { plain "a" with
      isCorrect := some true, next := some (.exit (some .pass)), nextSource := some .default },
    { plain "b" with next := some .loop, nextSource := some .default }] none]

/-- The question compiles, and every option leads where its action or the first rule that waits for
it sends it. -/
theorem flow_resolved : ∃ flow, document.compile.flow = some flow
    ∧ flow.itemId = some "detour" ∧ flow.atomId = none ∧ flow.stages = compiled := by
  have hsome : document.compile.flow.isSome = true := by decide
  obtain ⟨flow, hflow⟩ := Option.isSome_iff_exists.mp hsome
  obtain ⟨hitem, hatom, hstages, -⟩ := DeclarativeDocument.flow_eq_resolved schema_raw hflow
  have hcompiled : document.stages.map (fun stage => stage.toStage.resolved document.stages)
      = compiled := by decide
  exact ⟨flow, hflow, hitem, hatom, hstages.trans hcompiled⟩

end Detour

end AdaptiveQuiz
