import AdaptiveQuiz.Session.Start

/-!
# Runs of sessions

A run is a sequence of calls on a session, by the learner, by the host or by the clock.

## Main definitions

* `SessionCall`, `SessionReply`
* `Session.perform`: one call
* `Session.run`: a sequence of calls, with all replies
-/

namespace AdaptiveQuiz

open Schema

/-- What can be done with a session. -/
inductive SessionCall where
  | select (optionId : String)
  | submit (optionId : String)
  | emit (event : String) (detail : Fields)
  | advance (milliseconds : Int)
  | log (kind payload : Json)
  | recapture
  | leave
  | abort
deriving DecidableEq, Repr

/-- What comes back. -/
inductive SessionReply where
  | done
  | refused (error : TraversalError)
  | stepped (step : StepResult)
  | logged (entry : LogEntry)
  | unlogged (issues : List Issue)
  | recaptured
  | alreadyCapturing
  | aborted
deriving DecidableEq, Repr

namespace Session

/-- Makes one call. -/
def perform (session : Session) : SessionCall → Session × SessionReply
  | .select optionId =>
    match session.select optionId with
    | (session, .ok ()) => (session, .done)
    | (session, .error error) => (session, .refused error)
  | .submit optionId =>
    match session.submit optionId with
    | (session, .ok step) => (session, .stepped step)
    | (session, .error error) => (session, .refused error)
  | .emit event detail => (session.emit event detail, .done)
  | .advance milliseconds => (session.advance milliseconds, .done)
  | .log kind payload =>
    match session.logUnchecked kind payload with
    | (session, .accepted entry) => (session, .logged entry)
    | (session, .rejected first others) => (session, .unlogged (first :: others))
  | .recapture =>
    match session.recapture with
    | some session => (session, .recaptured)
    | none => (session, .alreadyCapturing)
  | .leave => (session.leave, .done)
  | .abort => (session.abort, .aborted)

/-- Makes a sequence of calls. -/
def run (session : Session) : List SessionCall → Session × List SessionReply
  | [] => (session, [])
  | call :: calls =>
    let (next, reply) := session.perform call
    let (last, replies) := next.run calls
    (last, reply :: replies)

end Session

end AdaptiveQuiz
