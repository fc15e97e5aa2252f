import AdaptiveQuiz.Flow.Encoding

/-!
# Multi-stage documents

A question of several stages comes in two forms. A declarative document says for each stage when it
is unlocked; a branching document says for each option where it leads.

## Main definitions

* `DeclarativeDocument`, `BranchingDocument`, with their schemas and their form as JSON values
-/

namespace AdaptiveQuiz

open Schema

/-- A multi-stage question with unlock rules. -/
structure DeclarativeDocument where
  itemId : Option String
  atomId : Option String
  difficulty : Option Int
  contextTags : List String
  stages : List DeclarativeStage
deriving DecidableEq, Repr

/-- What a learner finds on coming back to a stage. -/
inductive ReturnBehavior where
  | reloadWithNewVars
  | static
deriving DecidableEq, Repr

namespace ReturnBehavior

/-- The word for a behaviour. -/
def word : ReturnBehavior → String
  | .reloadWithNewVars => "reload_with_new_vars"
  | .static => "static"

/-- All behaviours. -/
def all : List ReturnBehavior := [.reloadWithNewVars, .static]

end ReturnBehavior

/-- Where a branching document starts. -/
structure FlowSettings where
  entry : String
  returnBehavior : Option ReturnBehavior
deriving DecidableEq, Repr

/-- A multi-stage question with explicit actions. -/
structure BranchingDocument where
  itemId : Option String
  atomId : Option String
  settings : FlowSettings
  stages : List Stage
deriving DecidableEq, Repr

/-- What is wrong with a list of stage ids, if anything is. -/
def repeatedStage? (ids : List String) : Option String :=
  (firstRepeated? [] ids).map fun id => "Duplicate stage_id '" ++ id ++ "'"

namespace DeclarativeDocument

/-- The names of the fields, in order. -/
def fieldNames : List String := ["item_id", "atom_id", "difficulty", "context_tags", "stages"]

/-- A declarative document, whose stage ids have to differ. -/
def schema : Schema DeclarativeDocument :=
  record "DeclarativeDocument" fun fields =>
    (DeclarativeDocument.mk <$> optionalNullable fields "item_id" anyText
      <*> optionalNullable fields "atom_id" anyText
      <*> optionalNullable fields "difficulty" integer
      <*> optional fields "context_tags" (listOf anyText) []
      <*> required fields "stages" (listOfAtLeast 1 DeclarativeStage.schema)).ensure
        fun document => repeatedStage? (document.stages.map fun stage => stage.id)

/-- A declarative document with all its fields. -/
def toJson (document : DeclarativeDocument) : Json :=
  .object [("item_id", .ofText? document.itemId), ("atom_id", .ofText? document.atomId),
    ("difficulty", .ofOption .integer document.difficulty),
    ("context_tags", .ofTexts document.contextTags),
    ("stages", .array (document.stages.map DeclarativeStage.toJson))]

end DeclarativeDocument

/-- The settings of a flow. The only mode is branching. -/
def FlowSettings.schema : Schema FlowSettings :=
  record "FlowSettings" fun fields =>
    (fun () => FlowSettings.mk) <$> optional fields "mode" (oneOf [()] fun () => "branching") ()
      <*> required fields "entry_stage_id" anyText
      <*> optionalNullable fields "return_behavior" (oneOf ReturnBehavior.all ReturnBehavior.word)

/-- The settings of a flow with all their fields. -/
def FlowSettings.toJson (settings : FlowSettings) : Json :=
  .object [("mode", .text "branching"), ("entry_stage_id", .text settings.entry),
    ("return_behavior", .ofText? (settings.returnBehavior.map ReturnBehavior.word))]

namespace BranchingDocument

/-- The names of the fields, in order. -/
def fieldNames : List String := ["item_id", "atom_id", "flow", "stages"]

/-- A branching document, whose stage ids have to differ. -/
def schema : Schema BranchingDocument :=
  record "BranchingDocument" fun fields =>
    (BranchingDocument.mk <$> optionalNullable fields "item_id" anyText
      <*> optionalNullable fields "atom_id" anyText
      <*> required fields "flow" FlowSettings.schema
      <*> required fields "stages" (listOfAtLeast 1 Stage.schema)).ensure
        fun document => repeatedStage? (document.stages.map Stage.id)

/-- A branching document with all its fields. -/
def toJson (document : BranchingDocument) : Json :=
  .object [("item_id", .ofText? document.itemId), ("atom_id", .ofText? document.atomId),
    ("flow", document.settings.toJson), ("stages", .array (document.stages.map Stage.toJson))]

end BranchingDocument

end AdaptiveQuiz
