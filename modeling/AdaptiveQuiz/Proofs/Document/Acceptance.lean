import AdaptiveQuiz.Document.MultiStage
import AdaptiveQuiz.Proofs.Schema.Acceptance

/-!
# What the schemas of multi-stage documents accept

An object is accepted as a stage, as a part of one or as a document exactly if each of its fields is
accepted as what the value has in its place. There is one equivalence for every schema, and nothing
after this module needs to know how the schemas are put together.

## Main definitions

* `UnlockRule.WellFormed`: a rule that names a parent if it needs one

## Main statements

* `StageOption.schema_eq_accepted`, `ChoiceSet.schema_eq_accepted`: options
* `Stage.ofFields_eq_accepted`: the fields of a stage
* `UnlockRule.schema_eq_accepted`: unlock rules
* `DeclarativeDocument.schema_eq_accepted`, `BranchingDocument.schema_eq_accepted`: documents
-/

namespace AdaptiveQuiz

open Schema

/-! ## Parts of a stage -/

theorem Prompt.schema_eq_accepted {v : Json} {prompt : Prompt} :
    Prompt.schema v = .accepted prompt ↔ ∃ fields, v = .object fields
      ∧ required fields "text" anyText = .accepted prompt.text
      ∧ optionalNullable fields "latex" anyText = .accepted prompt.latex
      ∧ optionalNullable fields "media_ref" anyText = .accepted prompt.mediaRef := by
  cases prompt
  simp [schema, record_eq_accepted]

theorem StageOption.schema_eq_accepted {v : Json} {option : StageOption} :
    StageOption.schema v = .accepted option ↔ ∃ fields, v = .object fields
      ∧ required fields "id" nonemptyText = .accepted option.id
      ∧ required fields "text" anyText = .accepted option.text
      ∧ optionalNullable fields "latex" anyText = .accepted option.latex
      ∧ optionalNullable fields "is_correct" boolean = .accepted option.isCorrect
      ∧ optionalNullable fields "feedback" anyText = .accepted option.feedback
      ∧ optionalNullable fields "diagnostic" anyText = .accepted option.diagnostic
      ∧ optionalNullable fields "next" Action.schema = .accepted option.next
      ∧ optionalNullable fields "next_source" (oneOf EdgeSource.all EdgeSource.word)
        = .accepted option.nextSource := by
  cases option
  simp [schema, record_eq_accepted, and_assoc]

theorem repeatedOption?_eq_none {choices : ChoiceSet} :
    repeatedOption? choices = none ↔ (choices.options.map StageOption.id).Nodup := by
  rw [repeatedOption?, Option.map_eq_none_iff, firstRepeated?_nil_eq_none]

theorem ChoiceSet.schema_eq_accepted {v : Json} {choices : ChoiceSet} :
    ChoiceSet.schema v = .accepted choices ↔ ∃ fields, v = .object fields
      ∧ required fields "options" (listOfAtLeast 1 StageOption.schema) = .accepted choices.options
      ∧ optional fields "shuffle" boolean false = .accepted choices.shuffle
      ∧ optional fields "single_select" boolean true = .accepted choices.singleSelect
      ∧ (choices.options.map StageOption.id).Nodup := by
  simp only [schema, record_eq_accepted, Checked.ensure_eq_accepted, repeatedOption?_eq_none]
  cases choices
  simp [and_assoc, -Bool.exists_bool]

theorem Interaction.schema_eq_accepted {v : Json} {interaction : Interaction} :
    Interaction.schema v = .accepted interaction ↔ ∃ fields, v = .object fields
      ∧ required fields "type" (oneOf InteractionKind.all InteractionKind.word)
        = .accepted interaction.kind
      ∧ required fields "config" ChoiceSet.schema = .accepted interaction.choices := by
  cases interaction
  simp [schema, record_eq_accepted]

theorem AnswerKey.schema_eq_accepted {v : Json} {key : AnswerKey} :
    AnswerKey.schema v = .accepted key ↔ ∃ fields, v = .object fields
      ∧ optionalNullable fields "correct_option_id" anyText = .accepted key.correctOptionId
      ∧ optional fields "key_points" (listOf anyText) [] = .accepted key.keyPoints := by
  cases key
  simp [schema, record_eq_accepted]

/-! ## Stages -/

theorem Stage.ofFields_eq_accepted {fields : Fields} {stage : Stage} :
    Stage.ofFields fields = .accepted stage
      ↔ required fields "stage_id" nonemptyText = .accepted stage.id
      ∧ optionalNullable fields "intent" (oneOf Intent.all Intent.word) = .accepted stage.intent
      ∧ required fields "prompt" Prompt.schema = .accepted stage.prompt
      ∧ optionalNullable fields "instruction" anyText = .accepted stage.instruction
      ∧ required fields "interaction" Interaction.schema = .accepted stage.interaction
      ∧ optional fields "answer_key" AnswerKey.schema .empty = .accepted stage.answerKey := by
  cases stage
  simp [ofFields, and_assoc]

theorem Stage.schema_eq_accepted {v : Json} {stage : Stage} :
    Stage.schema v = .accepted stage
      ↔ ∃ fields, v = .object fields ∧ Stage.ofFields fields = .accepted stage :=
  record_eq_accepted

/-! ## Stages with unlock rules -/

namespace UnlockRule

/-- What a rule waits for, if it waits for anything. -/
def trigger? : UnlockRule → Option Trigger
  | always _ => none
  | after trigger _ => some trigger

/-- The parent that a rule names, if it names one. -/
def parent? : UnlockRule → Option String
  | always parent => parent
  | after _ parent => some parent

/-- A rule that waits for something says on which stage. -/
def WellFormed : UnlockRule → Prop
  | always _ => True
  | after _ parent => parent ≠ ""

theorem ofParts_eq_accepted {trigger : Option Trigger} {parent : Option String}
    {rule : UnlockRule} : ofParts trigger parent = .accepted rule
      ↔ trigger = rule.trigger? ∧ parent = rule.parent? ∧ rule.WellFormed := by
  cases trigger with
  | none =>
    cases rule with
    | always named => simp [ofParts, trigger?, parent?, WellFormed]
    | after waited named => simp [ofParts, trigger?]
  | some trigger =>
    cases parent with
    | none =>
      refine iff_of_false Checked.reject_ne_accepted ?_
      -- only a rule that waits for nothing may be without a parent
      cases rule <;> simp [trigger?, parent?]
    | some parent =>
      rw [ofParts]
      split
      · next hempty =>
        refine iff_of_false Checked.reject_ne_accepted ?_
        cases rule with
        | always named => simp [trigger?]
        | after waited named =>
          rintro ⟨-, hparent, hne⟩
          exact hne ((Option.some.inj hparent).symm.trans hempty)
      · next hne =>
        cases rule with
        | always named => simp [trigger?]
        | after waited named =>
          simp only [Checked.accepted.injEq, after.injEq, trigger?, parent?, Option.some.injEq,
            WellFormed]
          constructor
          · rintro ⟨rfl, rfl⟩
            exact ⟨rfl, rfl, hne⟩
          · rintro ⟨rfl, rfl, -⟩
            exact ⟨rfl, rfl⟩

theorem schema_eq_accepted {v : Json} {rule : UnlockRule} :
    schema v = .accepted rule ↔ ∃ fields, v = .object fields
      ∧ required fields "show_when" (oneOf conditions conditionWord) = .accepted rule.trigger?
      ∧ optionalNullable fields "depends_on_stage_id" anyText = .accepted rule.parent?
      ∧ rule.WellFormed := by
  simp only [schema, record_eq_accepted, Checked.andThen_eq_accepted, Checked.seq_eq_accepted,
    Checked.map_eq_accepted, Prod.exists, ofParts_eq_accepted]
  constructor
  · rintro ⟨fields, rfl, _, _, ⟨_, _, ⟨_, htrigger, rfl⟩, hparent, heq⟩, rfl, rfl, hrule⟩
    cases heq
    exact ⟨fields, rfl, htrigger, hparent, hrule⟩
  · rintro ⟨fields, rfl, htrigger, hparent, hrule⟩
    exact ⟨fields, rfl, _, _, ⟨_, _, ⟨_, htrigger, rfl⟩, hparent, rfl⟩, rfl, rfl, hrule⟩

end UnlockRule

theorem DeclarativeStage.schema_eq_accepted {v : Json} {stage : DeclarativeStage} :
    DeclarativeStage.schema v = .accepted stage ↔ ∃ fields, normalize v = .object fields
      ∧ Stage.ofFields fields = .accepted stage.toStage
      ∧ optionalNullable fields "unlock_logic" UnlockRule.schema = .accepted stage.unlock := by
  cases stage
  simp [schema, normalizedSchema, record_eq_accepted]

/-! ## Documents -/

theorem repeatedStage?_eq_none {ids : List String} : repeatedStage? ids = none ↔ ids.Nodup := by
  rw [repeatedStage?, Option.map_eq_none_iff, firstRepeated?_nil_eq_none]

theorem FlowSettings.schema_eq_accepted {v : Json} {settings : FlowSettings} :
    FlowSettings.schema v = .accepted settings ↔ ∃ fields, v = .object fields
      ∧ optional fields "mode" (oneOf [()] fun () => "branching") () = .accepted ()
      ∧ required fields "entry_stage_id" anyText = .accepted settings.entry
      ∧ optionalNullable fields "return_behavior" (oneOf ReturnBehavior.all ReturnBehavior.word)
        = .accepted settings.returnBehavior := by
  cases settings
  simp [schema, record_eq_accepted, Unique.exists_iff, and_assoc]

theorem DeclarativeDocument.schema_eq_accepted {v : Json} {document : DeclarativeDocument} :
    DeclarativeDocument.schema v = .accepted document ↔ ∃ fields, v = .object fields
      ∧ optionalNullable fields "item_id" anyText = .accepted document.itemId
      ∧ optionalNullable fields "atom_id" anyText = .accepted document.atomId
      ∧ optionalNullable fields "difficulty" integer = .accepted document.difficulty
      ∧ optional fields "context_tags" (listOf anyText) [] = .accepted document.contextTags
      ∧ required fields "stages" (listOfAtLeast 1 DeclarativeStage.schema)
        = .accepted document.stages
      ∧ (document.stages.map fun stage => stage.id).Nodup := by
  simp only [schema, record_eq_accepted, Checked.ensure_eq_accepted, repeatedStage?_eq_none]
  cases document
  simp [and_assoc]

theorem BranchingDocument.schema_eq_accepted {v : Json} {document : BranchingDocument} :
    BranchingDocument.schema v = .accepted document ↔ ∃ fields, v = .object fields
      ∧ optionalNullable fields "item_id" anyText = .accepted document.itemId
      ∧ optionalNullable fields "atom_id" anyText = .accepted document.atomId
      ∧ required fields "flow" FlowSettings.schema = .accepted document.settings
      ∧ required fields "stages" (listOfAtLeast 1 Stage.schema) = .accepted document.stages
      ∧ (document.stages.map Stage.id).Nodup := by
  simp only [schema, record_eq_accepted, Checked.ensure_eq_accepted, repeatedStage?_eq_none]
  cases document
  simp [and_assoc]

/-- Fields that the schema does not name make no difference. -/
theorem BranchingDocument.schema_congr {fields fields' : Fields}
    (h : ∀ name ∈ fieldNames, Fields.get? fields' name = Fields.get? fields name) :
    BranchingDocument.schema (.object fields') = BranchingDocument.schema (.object fields) := by
  have hitem := optional_congr (h "item_id" (by decide)) (nullable anyText) none
  have hatom := optional_congr (h "atom_id" (by decide)) (nullable anyText) none
  have hflow := required_congr (h "flow" (by decide)) FlowSettings.schema
  have hstages := required_congr (h "stages" (by decide)) (listOfAtLeast 1 Stage.schema)
  simp only [schema, record, optionalNullable, hitem, hatom, hflow, hstages]

end AdaptiveQuiz
