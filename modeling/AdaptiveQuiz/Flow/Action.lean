import AdaptiveQuiz.Schema.Record
import AdaptiveQuiz.Text.Placeholder

/-!
# Actions

What happens when an option is submitted: the learner moves to a stage, stays, or leaves the flow
with an outcome.

## Main definitions

* `Outcome`, `Action`, `EdgeSource`
* `Action.target?`: the stage that an action moves to
* `Action.schema`, `Action.toJson`: actions as JSON values
-/

namespace AdaptiveQuiz

open Schema

/-- How a flow is left. -/
inductive Outcome where
  | pass
  | fail
deriving DecidableEq, Repr

namespace Outcome

/-- The outcome of an exit by an option of the given correctness. -/
def ofCorrectness (correct : Bool) : Outcome := if correct then .pass else .fail

/-- The word for an outcome. -/
def word : Outcome → String
  | .pass => "pass"
  | .fail => "fail"

/-- All outcomes. -/
def all : List Outcome := [.pass, .fail]

end Outcome

/-- What happens when an option is submitted. A step and a branch move in the same way and differ
only in how they were authored. An exit without outcome takes it from the option's correctness. -/
inductive Action where
  | goto (target : String)
  | branch (target : String)
  | loop
  | exit (outcome : Option Outcome)
deriving DecidableEq, Repr

namespace Action

/-- The stage that an action moves to, if it moves. -/
def target? : Action → Option String
  | .goto target => some target
  | .branch target => some target
  | .loop => none
  | .exit _ => none

/-! ## Actions as JSON values -/

/-- An action as a JSON value. -/
def toJson : Action → Json
  | .goto target => .object [("type", .text "goto_stage"), ("target", .text target)]
  | .branch target => .object [("type", .text "branch"), ("target", .text target)]
  | .loop => .object [("type", .text "loop")]
  | .exit outcome =>
    .object [("type", .text "exit"), ("outcome", .ofText? (outcome.map Outcome.word))]

/-- What is said of a tag that no action has. The list of the tags is filled in last, so it also
stands for its placeholder in the tag. -/
def unknownTag (tag : String) : String :=
  Text.fill "expected_tags" "'goto_stage', 'branch', 'loop', 'exit'"
    ("Input tag '" ++ tag ++ "' found using 'type' does not match any of the expected tags: "
      ++ "\x7bexpected_tags\x7d")

/-- The action of a tag with its fields. -/
def ofFields (tag : Json) (fields : Fields) : Checked Action :=
  if tag = .text "goto_stage" then
    (Action.goto <$> required fields "target" anyText).within (.field "goto_stage")
  else if tag = .text "branch" then
    (Action.branch <$> required fields "target" anyText).within (.field "branch")
  else if tag = .text "loop" then .accepted .loop
  else if tag = .text "exit" then
    (Action.exit <$> optionalNullable fields "outcome" (oneOf Outcome.all Outcome.word)).within
      (.field "exit")
  else .reject (unknownTag tag.display)

/-- An object whose type is the tag of an action. -/
def schema : Schema Action
  | .object fields =>
    match Fields.get? fields "type" with
    | none => .reject "Unable to extract tag using discriminator 'type'"
    | some tag => ofFields tag fields
  | _ => .reject "Input should be a valid dictionary or object to extract fields from"

end Action

/-- Which rule gave an option its action. -/
inductive EdgeSource where
  | explicit
  | afterCorrect
  | attemptsExceeded
  | default
deriving DecidableEq, Repr

namespace EdgeSource

/-- The word for a source. -/
def word : EdgeSource → String
  | .explicit => "explicit"
  | .afterCorrect => "after_correct"
  | .attemptsExceeded => "attempts_exceeded"
  | .default => "default"

/-- All sources. -/
def all : List EdgeSource := [.explicit, .afterCorrect, .attemptsExceeded, .default]

end EdgeSource

end AdaptiveQuiz
