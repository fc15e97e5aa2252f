import AdaptiveQuiz.Flow.Basic
import AdaptiveQuiz.Journal.Recorder

/-!
# Traversals

A traversal is one learner's way through a flow: the stage shown now, the stages left before, and
how it ended, if it has. Selecting and submitting an option change nothing but are events; applying an
action moves, stays, or ends the traversal. Nothing can be done once it has ended.

## Main definitions

* `Completion`, `Traversal`, `TraversalError`
* `Traversal.start?`, `Traversal.select`, `Traversal.submit`, `Traversal.apply`
* `Traversal.applyFieldless`: what comes of something that cannot be written down
-/

namespace AdaptiveQuiz

/-- How a traversal ended. -/
structure Completion where
  isCorrect : Bool
  path : List String
  finalStage : String
deriving DecidableEq, Repr

/-- A completion as a JSON value. -/
def Completion.toJson (completion : Completion) : Json :=
  .object [("is_correct", .bool completion.isCorrect), ("path", .ofTexts completion.path),
    ("final_stage", .text completion.finalStage)]

/-- Why something cannot be done on a traversal. -/
inductive TraversalError where
  /-- The entry of the flow is not a stage. -/
  | entryMissing (entry : String)
  /-- The traversal has ended. -/
  | terminated (stage : String)
  /-- The stage shown has no such option. -/
  | unknownOption (option stage : String)
  /-- The option has no action. -/
  | unresolved (option stage : String)
  /-- The action moves to something that is not a stage. -/
  | unknownTarget (stage target : String)
  /-- What was handed over is not an action. -/
  | unsupported (description : String)
  /-- What was handed over has no fields that could be written down. -/
  | fieldless (kind : String)
deriving DecidableEq, Repr

namespace TraversalError

/-- The error in words. -/
def message : TraversalError → String
  | .entryMissing entry => "Entry stage '" ++ entry ++ "' not in flow"
  | .terminated stage => "Flow already exited on stage '" ++ stage ++ "'"
  | .unknownOption option stage => "Option '" ++ option ++ "' not found on stage '" ++ stage ++ "'"
  | .unresolved option stage =>
    "Option '" ++ option ++ "' on stage '" ++ stage ++ "' has no transition; flow was not compiled"
  | .unknownTarget stage target =>
    "Transition from '" ++ stage ++ "' targets unknown stage '" ++ target ++ "'"
  | .unsupported description => "Unsupported transition: " ++ description
  | .fieldless kind => "'" ++ kind ++ "' object has no attribute 'model_dump'"

end TraversalError

/-- What a caller may hand over to be applied: an action, or something else, with its fields and its
description. -/
inductive Proposal where
  | action (action : Action)
  | other (content : Json) (description : String)
deriving DecidableEq, Repr

namespace Proposal

/-- What was handed over as a JSON value. -/
def toJson : Proposal → Json
  | .action step => step.toJson
  | .other content _ => content

/-- A prompt handed over in place of an action. -/
def ofPrompt (prompt : Prompt) : Proposal :=
  let part (value : Option String) : String := ((value.map Text.quote).getD "None")
  .other prompt.toJson ("Prompt(text=" ++ Text.quote prompt.text ++ ", latex=" ++ part prompt.latex
    ++ ", media_ref=" ++ part prompt.mediaRef ++ ")")

end Proposal

/-- One learner's way through a flow. -/
structure Traversal where
  flow : Flow
  current : Stage
  history : List String
  completion : Option Completion
deriving DecidableEq, Repr

/-- A submission that was accepted: the option, its action, and the event. -/
structure Submitted where
  option : StageOption
  action : Action
  event : Event
deriving DecidableEq, Repr

/-- What comes of applying an action: the traversal after it, the events, and the answer. -/
structure Applied where
  traversal : Traversal
  events : List Event
  answer : Except TraversalError (Option Completion)

namespace Traversal

/-- The traversal that shows the entry of a flow. -/
def start? (flow : Flow) : Except TraversalError Traversal :=
  match flow.stage? flow.entry with
  | none => .error (.entryMissing flow.entry)
  | some stage => .ok ⟨flow, stage, [], none⟩

/-- Whether the traversal has ended. -/
def isTerminal (traversal : Traversal) : Bool := traversal.completion.isSome

/-- Does something unless the traversal has ended. -/
def whileActive {α : Type} (traversal : Traversal) (act : Except TraversalError α) :
    Except TraversalError α :=
  match traversal.completion with
  | some completion => .error (.terminated completion.finalStage)
  | none => act

/-- An option of the stage shown. -/
def findOption (traversal : Traversal) (id : String) : Except TraversalError StageOption :=
  match traversal.current.option? id with
  | none => .error (.unknownOption id traversal.current.id)
  | some option => .ok option

/-- The event that an option is selected. -/
def selection (traversal : Traversal) (id : String) : Event :=
  ⟨.selectOption, .object [("stage", .text traversal.current.id), ("option_id", .text id)]⟩

/-- Selects an option of the stage shown. -/
def select (traversal : Traversal) (id : String) : Except TraversalError Event :=
  traversal.whileActive ((traversal.findOption id).map fun _ => traversal.selection id)

/-- The event that an option with an action is submitted. -/
def submission (traversal : Traversal) (option : StageOption) (action : Action) : Event :=
  ⟨.submitStage, .object [("stage", .text traversal.current.id), ("option_id", .text option.id),
    ("is_correct", .bool (traversal.current.isCorrect option)),
    ("diagnostic", .ofText? option.diagnostic), ("next", action.toJson)]⟩

/-- Submits an option of the stage shown. The action is for the caller to apply. -/
def submit (traversal : Traversal) (id : String) : Except TraversalError Submitted :=
  traversal.whileActive do
    let option ← traversal.findOption id
    match option.next with
    | none => .error (.unresolved id traversal.current.id)
    | some action => .ok ⟨option, action, traversal.submission option action⟩

/-- The event that something is applied. -/
def transition (traversal : Traversal) (proposal : Proposal) : Event :=
  ⟨.transition, .object [("from", .text traversal.current.id), ("action", proposal.toJson)]⟩

/-- Moves to a stage of the flow. -/
def moveTo (traversal : Traversal) (target : String) :
    Traversal × Except TraversalError (Option Completion) :=
  match traversal.flow.stage? target with
  | none => (traversal, .error (.unknownTarget traversal.current.id target))
  | some stage =>
    ({ traversal with
      current := stage, history := traversal.history ++ [traversal.current.id] }, .ok none)

/-- How the traversal ends if it exits with an outcome now. -/
def completionWith (traversal : Traversal) (outcome : Option Outcome) : Completion :=
  ⟨outcome == some .pass, traversal.history ++ [traversal.current.id], traversal.current.id⟩

/-- Carries out what was handed over, on an active traversal. -/
def carryOut (traversal : Traversal) :
    Proposal → Traversal × Except TraversalError (Option Completion)
  | .action .loop => (traversal, .ok none)
  | .action (.goto target) => traversal.moveTo target
  | .action (.branch target) => traversal.moveTo target
  | .action (.exit outcome) =>
    let completion := traversal.completionWith outcome
    ({ traversal with completion := some completion }, .ok (some completion))
  | .other _ description => (traversal, .error (.unsupported description))

/-- Applies what was handed over. On an active traversal this is an event even if it fails. -/
def apply (traversal : Traversal) (proposal : Proposal) : Applied :=
  match traversal.completion with
  | some completion => ⟨traversal, [], .error (.terminated completion.finalStage)⟩
  | none =>
    let (after, answer) := traversal.carryOut proposal
    ⟨after, [traversal.transition proposal], answer⟩

/-- Refuses to apply a value without fields, of a kind given by its word. The event would have to tell
the fields, so there is none. -/
def applyFieldless (traversal : Traversal) (kind : String) :
    Except TraversalError (Option Completion) :=
  traversal.whileActive (.error (.fieldless kind))

end Traversal

end AdaptiveQuiz
