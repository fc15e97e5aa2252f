import AdaptiveQuiz.Flow.Traversal
import AdaptiveQuiz.Journal.Clock

/-!
# Walks

A walk is a traversal that may keep a journal. Whatever is entered there is dated by a clock of the
walk's own, which is read for every entry.

## Main definitions

* `Walk`, with `Walk.select`, `Walk.submit`, `Walk.apply`, `Walk.applyFieldless`, `Walk.answer`
* `WalkCall`, `WalkReply`, `Walk.perform`: one call of any kind
* `Walk.run`: a sequence of calls, with all replies
-/

namespace AdaptiveQuiz

/-- A traversal that may keep a journal, and a clock. -/
structure Walk where
  traversal : Traversal
  journal : Option (List LogEntry)
  clock : Clock

namespace Walk

/-- The walk that shows the entry of a flow. -/
def start? (flow : Flow) (keepsJournal : Bool) (clock : Clock) : Except TraversalError Walk :=
  (Traversal.start? flow).map fun traversal =>
    ⟨traversal, if keepsJournal then some [] else none, clock⟩

/-- Writes an event into the journal, if there is one. The clock is read for it. -/
def note (walk : Walk) (event : Event) : Walk :=
  match walk.journal with
  | none => walk
  | some log =>
    { walk with
      journal := some (log ++ [.ofEvent walk.clock.now event])
      clock := walk.clock.tick }

/-- Writes events into the journal, if there is one. -/
def noteAll (walk : Walk) (events : List Event) : Walk := events.foldl note walk

/-- Lets time pass. -/
def advance (walk : Walk) (milliseconds : Int) : Walk :=
  { walk with clock := walk.clock.advance milliseconds }

/-- Selects an option of the stage shown. -/
def select (walk : Walk) (id : String) : Walk × Except TraversalError Unit :=
  match walk.traversal.select id with
  | .ok event => (walk.note event, .ok ())
  | .error error => (walk, .error error)

/-- Submits an option of the stage shown. -/
def submit (walk : Walk) (id : String) : Walk × Except TraversalError Action :=
  match walk.traversal.submit id with
  | .ok submitted => (walk.note submitted.event, .ok submitted.action)
  | .error error => (walk, .error error)

/-- Applies what was handed over. -/
def apply (walk : Walk) (proposal : Proposal) :
    Walk × Except TraversalError (Option Completion) :=
  let applied := walk.traversal.apply proposal
  ({ walk with traversal := applied.traversal }.noteAll applied.events, applied.answer)

/-- Refuses to apply a value without fields. -/
def applyFieldless (walk : Walk) (kind : String) :
    Walk × Except TraversalError (Option Completion) :=
  (walk, walk.traversal.applyFieldless kind)

/-- Submits an option and applies its action. -/
def answer (walk : Walk) (id : String) : Walk × Except TraversalError (Option Completion) :=
  match walk.submit id with
  | (walk, .ok action) => walk.apply (.action action)
  | (walk, .error error) => (walk, .error error)

end Walk

/-! ## Sequences of calls -/

/-- What can be done with a walk. -/
inductive WalkCall where
  | select (optionId : String)
  | submit (optionId : String)
  | apply (proposal : Proposal)
  | applyFieldless (kind : String)
  | answer (optionId : String)
  | advance (milliseconds : Int)
deriving DecidableEq, Repr

/-- What comes back. -/
inductive WalkReply where
  | done
  | refused (error : TraversalError)
  | submitted (action : Action)
  | applied (completion : Option Completion)
deriving DecidableEq, Repr

namespace WalkReply

/-- A refusal, or the reply for what came out. -/
def ofExcept {α : Type} (reply : α → WalkReply) : Except TraversalError α → WalkReply
  | .ok a => reply a
  | .error error => .refused error

end WalkReply

namespace Walk

/-- Makes one call. -/
def perform (walk : Walk) : WalkCall → Walk × WalkReply
  | .select optionId =>
    let (walk, answer) := walk.select optionId
    (walk, .ofExcept (fun () => .done) answer)
  | .submit optionId =>
    let (walk, answer) := walk.submit optionId
    (walk, .ofExcept .submitted answer)
  | .apply proposal =>
    let (walk, answer) := walk.apply proposal
    (walk, .ofExcept .applied answer)
  | .applyFieldless kind =>
    let (walk, answer) := walk.applyFieldless kind
    (walk, .ofExcept .applied answer)
  | .answer optionId =>
    let (walk, answer) := walk.answer optionId
    (walk, .ofExcept .applied answer)
  | .advance milliseconds => (walk.advance milliseconds, .done)

/-- Makes a sequence of calls. -/
def run (walk : Walk) : List WalkCall → Walk × List WalkReply
  | [] => (walk, [])
  | call :: calls =>
    let (next, reply) := walk.perform call
    let (last, replies) := next.run calls
    (last, reply :: replies)

end Walk

end AdaptiveQuiz
