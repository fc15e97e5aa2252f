import AdaptiveQuiz.Flow.Stage

/-!
# Reachability

The stages that a chain of edges leads to are found by a breadth first search. The search keeps the
ids in the order in which they were found, and a queue of those whose edges are still to be
followed.

## Main definitions

* `StageMap`: stages under their ids
* `Search`, `Search.step`, `Search.run`: the search
* `reachableFrom`: all ids that the search finds
-/

namespace AdaptiveQuiz

/-- Stages under their ids. -/
abbrev StageMap := List (String × Stage)

/-- The targets of the options of a stage, in order. -/
def Stage.targets (stage : Stage) : List String :=
  stage.options.filterMap fun option => option.next.bind Action.target?

namespace StageMap

/-- The stage under an id. -/
def get? (map : StageMap) (id : String) : Option Stage := map.lookup id

/-- Whether there is a stage under an id. -/
def has (map : StageMap) (id : String) : Bool := (map.get? id).isSome

/-- Stages under their own ids. -/
def ofStages (stages : List Stage) : StageMap := stages.map fun stage => (stage.id, stage)

end StageMap

/-- A search under way: what was found, in order, and what of it is still to be followed. -/
structure Search where
  found : List String
  queue : List String
deriving DecidableEq, Repr

namespace Search

/-- The search that has found only where it starts. -/
def start (entry : String) : Search := ⟨[entry], [entry]⟩

/-- Records a target, unless it is no stage or was found before. -/
def discover (map : StageMap) (search : Search) (target : String) : Search :=
  if map.has target && !search.found.contains target then
    ⟨search.found ++ [target], search.queue ++ [target]⟩
  else search

/-- Takes the first id from the queue and follows its edges. -/
def step (map : StageMap) (search : Search) : Search :=
  match search.queue with
  | [] => search
  | id :: rest =>
    match map.get? id with
    -- only the entry enters the queue unchecked
    | none => ⟨search.found, rest⟩
    | some stage => stage.targets.foldl (discover map) ⟨search.found, rest⟩

/-- A number of steps. -/
def run (map : StageMap) : Nat → Search → Search
  | 0, search => search
  | steps + 1, search => run map steps (step map search)

end Search

/-- The entry and all stages that a chain of edges leads to from there. Every id but the entry that
enters the queue is the id of a stage and enters once, so as many steps as there are stages, and one
more, empty it. -/
def reachableFrom (map : StageMap) (entry : String) : List String :=
  ((Search.start entry).run map (map.length + 1)).found

end AdaptiveQuiz
