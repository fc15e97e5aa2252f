import AdaptiveQuiz.Flow.Stage

/-!
# Stages as JSON values

For every part of a stage there is a schema, which reads it, and a function that writes it with all
its fields.

## Main definitions

* `Stage.schema`, `Stage.toJson`
* `UnlockRule.schema`, `DeclarativeStage.schema`, `DeclarativeStage.toJson`
* `DeclarativeStage.normalize`: the spellings of the authoring format, brought to the common form
-/

namespace AdaptiveQuiz

open Schema

/-! ## Prompts and options -/

/-- A prompt. -/
def Prompt.schema : Schema Prompt :=
  record "Prompt" fun fields =>
    Prompt.mk <$> required fields "text" anyText
      <*> optionalNullable fields "latex" anyText
      <*> optionalNullable fields "media_ref" anyText

/-- A prompt with all its fields. -/
def Prompt.toJson (prompt : Prompt) : Json :=
  .object [("text", .text prompt.text), ("latex", .ofText? prompt.latex),
    ("media_ref", .ofText? prompt.mediaRef)]

/-- An option of a stage. -/
def StageOption.schema : Schema StageOption :=
  record "Option" fun fields =>
    StageOption.mk <$> required fields "id" nonemptyText
      <*> required fields "text" anyText
      <*> optionalNullable fields "latex" anyText
      <*> optionalNullable fields "is_correct" boolean
      <*> optionalNullable fields "feedback" anyText
      <*> optionalNullable fields "diagnostic" anyText
      <*> optionalNullable fields "next" Action.schema
      <*> optionalNullable fields "next_source" (oneOf EdgeSource.all EdgeSource.word)

/-- An option with all its fields. -/
def StageOption.toJson (option : StageOption) : Json :=
  .object [("id", .text option.id), ("text", .text option.text), ("latex", .ofText? option.latex),
    ("is_correct", .ofOption .bool option.isCorrect), ("feedback", .ofText? option.feedback),
    ("diagnostic", .ofText? option.diagnostic), ("next", .ofOption Action.toJson option.next),
    ("next_source", .ofText? (option.nextSource.map EdgeSource.word))]

/-! ## Interactions -/

/-- What is wrong with the ids of a list of options, if anything is. -/
def repeatedOption? (choices : ChoiceSet) : Option String :=
  (firstRepeated? [] (choices.options.map StageOption.id)).map fun id =>
    "Duplicate option id '" ++ id ++ "'"

/-- The options of a stage, whose ids have to differ. -/
def ChoiceSet.schema : Schema ChoiceSet :=
  record "InteractionConfig" fun fields =>
    (ChoiceSet.mk <$> required fields "options" (listOfAtLeast 1 StageOption.schema)
      <*> optional fields "shuffle" boolean false
      <*> optional fields "single_select" boolean true).ensure repeatedOption?

/-- The options of a stage with all their fields. -/
def ChoiceSet.toJson (choices : ChoiceSet) : Json :=
  .object [("options", .array (choices.options.map StageOption.toJson)),
    ("shuffle", .bool choices.shuffle), ("single_select", .bool choices.singleSelect)]

/-- An interaction. -/
def Interaction.schema : Schema Interaction :=
  record "Interaction" fun fields =>
    Interaction.mk <$> required fields "type" (oneOf InteractionKind.all InteractionKind.word)
      <*> required fields "config" ChoiceSet.schema

/-- An interaction with all its fields. -/
def Interaction.toJson (interaction : Interaction) : Json :=
  .object [("type", .text interaction.kind.word), ("config", interaction.choices.toJson)]

/-- An answer key. -/
def AnswerKey.schema : Schema AnswerKey :=
  record "AnswerKey" fun fields =>
    AnswerKey.mk <$> optionalNullable fields "correct_option_id" anyText
      <*> optional fields "key_points" (listOf anyText) []

/-- An answer key with all its fields. -/
def AnswerKey.toJson (key : AnswerKey) : Json :=
  .object [("correct_option_id", .ofText? key.correctOptionId),
    ("key_points", .ofTexts key.keyPoints)]

/-! ## Stages -/

/-- The fields of a stage. -/
def Stage.ofFields (fields : Fields) : Checked Stage :=
  Stage.mk <$> required fields "stage_id" nonemptyText
    <*> optionalNullable fields "intent" (oneOf Intent.all Intent.word)
    <*> required fields "prompt" Prompt.schema
    <*> optionalNullable fields "instruction" anyText
    <*> required fields "interaction" Interaction.schema
    <*> optional fields "answer_key" AnswerKey.schema .empty

/-- A stage. -/
def Stage.schema : Schema Stage := record "Stage" Stage.ofFields

/-- The fields of a stage, all of them. -/
def Stage.toFields (stage : Stage) : Fields :=
  [("stage_id", .text stage.id), ("intent", .ofText? (stage.intent.map Intent.word)),
    ("prompt", stage.prompt.toJson), ("instruction", .ofText? stage.instruction),
    ("interaction", stage.interaction.toJson), ("answer_key", stage.answerKey.toJson)]

/-- A stage with all its fields. -/
def Stage.toJson (stage : Stage) : Json := .object stage.toFields

/-! ## Unlock rules -/

/-- The conditions that an unlock rule may name. No trigger stands for no condition. -/
def UnlockRule.conditions : List (Option Trigger) :=
  [none, some .correct, some .attemptsExceeded]

/-- The word for a condition. -/
def UnlockRule.conditionWord : Option Trigger → String
  | none => "always"
  | some .correct => "after_stage_correct"
  | some .attemptsExceeded => "after_stage_attempts_exceeded"

/-- A condition without a parent that it is about is rejected. -/
def UnlockRule.rejectOrphan (trigger : Trigger) : Checked UnlockRule :=
  .reject ("Value error, show_when='" ++ conditionWord (some trigger)
    ++ "' requires depends_on_stage_id")

/-- The rule with a condition and a parent. A condition needs a parent with a name. -/
def UnlockRule.ofParts (trigger : Option Trigger) (parent : Option String) : Checked UnlockRule :=
  match trigger, parent with
  | none, parent => .accepted (.always parent)
  | some trigger, some parent =>
    if parent = "" then rejectOrphan trigger else .accepted (.after trigger parent)
  | some trigger, none => rejectOrphan trigger

/-- An unlock rule. -/
def UnlockRule.schema : Schema UnlockRule :=
  record "UnlockRule" fun fields =>
    (Prod.mk <$> required fields "show_when" (oneOf conditions conditionWord)
      <*> optionalNullable fields "depends_on_stage_id" anyText).andThen fun (trigger, parent) =>
        ofParts trigger parent

/-- An unlock rule with all its fields. -/
def UnlockRule.toJson : UnlockRule → Json
  | .always parent => .object [("show_when", .text (conditionWord none)),
      ("depends_on_stage_id", .ofText? parent)]
  | .after trigger parent => .object [("show_when", .text (conditionWord (some trigger))),
      ("depends_on_stage_id", .text parent)]

/-! ## Stages with unlock rules -/

namespace DeclarativeStage

/-- Changes the value of a field, if it is there. -/
def mapField (name : String) (f : Json → Json) (fields : Fields) : Fields :=
  fields.map fun (key, value) => if key = name then (key, f value) else (key, value)

/-- A diagnostic given as an object is reduced to the misconception that it names. -/
def normalizeDiagnostic : Json → Json
  | .object fields => (Fields.get? fields "misconception_id").getD .null
  | value => value

/-- An option with its diagnostic reduced. -/
def normalizeOption : Json → Json
  | .object fields => .object (mapField "diagnostic" normalizeDiagnostic fields)
  | value => value

/-- The options of an interaction with their diagnostics reduced. -/
def normalizeOptions : Json → Json
  | .array options => .array (options.map normalizeOption)
  | value => value

/-- The configuration of an interaction with the diagnostics of its options reduced. -/
def normalizeConfig : Json → Json
  | .object fields => .object (mapField "options" normalizeOptions fields)
  | value => value

/-- An interaction asks for concepts unless it says otherwise. -/
def normalizeInteraction : Json → Json
  | .object fields =>
    let fields := mapField "config" normalizeConfig fields
    .object (if (Fields.get? fields "type").isSome then fields
      else ("type", .text InteractionKind.concept.word) :: fields)
  | value => value

/-- A stage of the authoring format in the common form. -/
def normalize : Json → Json
  | .object fields => .object (mapField "interaction" normalizeInteraction fields)
  | value => value

/-- A stage with an unlock rule, in the common form. -/
def normalizedSchema : Schema DeclarativeStage :=
  record "DeclarativeStage" fun fields =>
    DeclarativeStage.mk <$> Stage.ofFields fields
      <*> optionalNullable fields "unlock_logic" UnlockRule.schema

/-- A stage with an unlock rule. -/
def schema : Schema DeclarativeStage := fun v => normalizedSchema (normalize v)

/-- A stage with an unlock rule and all its fields. -/
def toJson (stage : DeclarativeStage) : Json :=
  .object (stage.toStage.toFields ++ [("unlock_logic", .ofOption UnlockRule.toJson stage.unlock)])

end DeclarativeStage

end AdaptiveQuiz
