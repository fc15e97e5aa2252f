import AdaptiveQuiz.Flow.Action
import AdaptiveQuiz.Text.Case

/-!
# Stages

A stage is one screen of a question: a prompt, options to choose from and an answer key. An option
may carry the action that its submission leads to.

## Main definitions

* `StageOption`, `Stage`
* `Stage.isCorrect`: whether an option answers its stage
* `Stage.isRepair`: whether a stage is remediation
* `Stage.mapOptions`: the stage with changed options
-/

namespace AdaptiveQuiz

/-- What a learner is asked. -/
structure Prompt where
  text : String
  latex : Option String
  mediaRef : Option String
deriving DecidableEq, Repr

/-- One selectable answer of a stage. -/
structure StageOption where
  id : String
  text : String
  latex : Option String
  isCorrect : Option Bool
  feedback : Option String
  diagnostic : Option String
  next : Option Action
  nextSource : Option EdgeSource
deriving DecidableEq, Repr

/-- What a stage is for. -/
inductive Intent where
  | initial
  | repairConcept
  | repairVisual
  | repairProcedure
  | scaffoldedPractice
  | transfer
deriving DecidableEq, Repr

namespace Intent

/-- The word for an intent. -/
def word : Intent → String
  | .initial => "INITIAL"
  | .repairConcept => "REPAIR_CONCEPT"
  | .repairVisual => "REPAIR_VISUAL"
  | .repairProcedure => "REPAIR_PROCEDURE"
  | .scaffoldedPractice => "SCAFFOLDED_PRACTICE"
  | .transfer => "TRANSFER"

/-- All intents. -/
def all : List Intent :=
  [.initial, .repairConcept, .repairVisual, .repairProcedure, .scaffoldedPractice, .transfer]

/-- Whether the intent is remediation. -/
def isRepair : Intent → Bool
  | .repairConcept | .repairVisual | .repairProcedure => true
  | .initial | .scaffoldedPractice | .transfer => false

end Intent

/-- What kind of knowledge the options ask for. -/
inductive InteractionKind where
  | concept
  | procedural
deriving DecidableEq, Repr

namespace InteractionKind

/-- The word for a kind of interaction. -/
def word : InteractionKind → String
  | .concept => "mcq_concept"
  | .procedural => "mcq_procedural"

/-- All kinds of interaction. -/
def all : List InteractionKind := [.concept, .procedural]

end InteractionKind

/-- The options of a stage and how they are offered. -/
structure ChoiceSet where
  options : List StageOption
  shuffle : Bool
  singleSelect : Bool
deriving DecidableEq, Repr

/-- How a learner answers a stage. -/
structure Interaction where
  kind : InteractionKind
  choices : ChoiceSet
deriving DecidableEq, Repr

/-- What a right answer is. -/
structure AnswerKey where
  correctOptionId : Option String
  keyPoints : List String
deriving DecidableEq, Repr

/-- The answer key of a stage that has none. -/
def AnswerKey.empty : AnswerKey := ⟨none, []⟩

/-- One screen of a question. -/
structure Stage where
  id : String
  intent : Option Intent
  prompt : Prompt
  instruction : Option String
  interaction : Interaction
  answerKey : AnswerKey
deriving DecidableEq, Repr

namespace Stage

/-- The options of a stage, in the order in which they were authored. -/
def options (stage : Stage) : List StageOption := stage.interaction.choices.options

/-- The option of a given id. -/
def option? (stage : Stage) (id : String) : Option StageOption :=
  stage.options.find? (·.id == id)

/-- An option is correct if it is flagged so, or if the answer key names it. -/
def isCorrect (stage : Stage) (option : StageOption) : Bool :=
  option.isCorrect == some true || stage.answerKey.correctOptionId == some option.id

/-- Whether an id marks its stage as remediation. -/
def isRepairId (id : String) : Bool :=
  ['R', '_'].isPrefixOf id.toList
    || Text.contains ['R', 'E', 'P', 'A', 'I', 'R'] (Text.capitals id.toList)

/-- Whether a stage is remediation, by its intent or by its id. -/
def isRepair (stage : Stage) : Bool := stage.intent.any Intent.isRepair || isRepairId stage.id

/-- The stage with every option changed by a function. -/
def mapOptions (f : StageOption → StageOption) (stage : Stage) : Stage :=
  { stage with interaction :=
    { stage.interaction with choices :=
      { stage.interaction.choices with options := stage.options.map f } } }

@[simp] theorem options_mapOptions (f : StageOption → StageOption) (stage : Stage) :
    (stage.mapOptions f).options = stage.options.map f := rfl

@[simp] theorem id_mapOptions (f : StageOption → StageOption) (stage : Stage) :
    (stage.mapOptions f).id = stage.id := rfl

/-- The answer key alone decides, beside the option, what is correct. -/
@[simp] theorem isCorrect_mapOptions (f : StageOption → StageOption) (stage : Stage)
    (option : StageOption) : (stage.mapOptions f).isCorrect option = stage.isCorrect option := rfl

end Stage

/-- The first stage of a given id. -/
def stage? (stages : List Stage) (id : String) : Option Stage := stages.find? (·.id == id)

/-! ## Unlock rules -/

/-- What a learner has to do on a stage to unlock another one. -/
inductive Trigger where
  | correct
  | attemptsExceeded
deriving DecidableEq, Repr

/-- When a stage is shown: always, or after something happened on a parent stage. -/
inductive UnlockRule where
  | always (parent : Option String)
  | after (trigger : Trigger) (parent : String)
deriving DecidableEq, Repr

/-- A stage as authored with an unlock rule. -/
structure DeclarativeStage extends Stage where
  unlock : Option UnlockRule
deriving DecidableEq, Repr

/-- Whether a stage is shown without any condition. -/
def DeclarativeStage.isUnconditional (stage : DeclarativeStage) : Bool :=
  match stage.unlock with
  | none => true
  | some (.always _) => true
  | some (.after _ _) => false

end AdaptiveQuiz
