import AdaptiveQuiz.Flow.Encoding

/-!
# Flows

A flow is what a learner walks through: stages, one of which is the entry. A flow that came out of
compilation has an action on every option; the type also holds flows made by hand, which may lack
actions or name stages that are not there.

## Main definitions

* `Flow`, with `Flow.schema` and `Flow.toJson`
* `Flow.stage?`: the stage of a given id
-/

namespace AdaptiveQuiz

open Schema

/-- Stages to walk through and the id of the one to start on. -/
structure Flow where
  itemId : Option String
  atomId : Option String
  entry : String
  stages : List Stage
deriving DecidableEq, Repr

namespace Flow

/-- The stage of a given id. -/
def stage? (flow : Flow) (id : String) : Option Stage := AdaptiveQuiz.stage? flow.stages id

/-- The ids of the stages, in order. -/
def stageIds (flow : Flow) : List String := flow.stages.map Stage.id

/-- A flow. -/
def schema : Schema Flow :=
  record "CompiledFlow" fun fields =>
    Flow.mk <$> optionalNullable fields "item_id" anyText
      <*> optionalNullable fields "atom_id" anyText
      <*> required fields "entry_stage_id" anyText
      <*> required fields "stages" (arrayOf "Input should be a valid tuple" Stage.schema)

/-- A flow with all its fields. -/
def toJson (flow : Flow) : Json :=
  .object [("item_id", .ofText? flow.itemId), ("atom_id", .ofText? flow.atomId),
    ("entry_stage_id", .text flow.entry), ("stages", .array (flow.stages.map Stage.toJson))]

end Flow

end AdaptiveQuiz
