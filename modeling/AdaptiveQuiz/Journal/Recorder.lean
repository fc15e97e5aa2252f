import AdaptiveQuiz.Journal.Environment

/-!
# Recorders

A recorder keeps the journal of one session. While a capture is open it also listens to the host. At
most one capture is open at a time.

## Main definitions

* `Capture`, `Recorder`
* `Recorder.note`: appends an event
-/

namespace AdaptiveQuiz

/-- How far a recorder is with listening to the host. -/
inductive Capture where
  /-- It does not listen. -/
  | closed
  /-- It began to listen, but its first entry was refused. Nothing ends this. -/
  | stuck
  /-- It listens, to the environment if it is attached to it. -/
  | opened (attached : Bool)
deriving DecidableEq, Repr

/-- The journal of one session. -/
structure Recorder where
  entries : List LogEntry
  capture : Capture
deriving DecidableEq, Repr

namespace Recorder

/-- A recorder that has nothing to tell yet. -/
def empty : Recorder := ⟨[], .closed⟩

/-- Whether the recorder listens, or tries to. -/
def isCapturing (recorder : Recorder) : Bool := recorder.capture != .closed

/-- Appends an entry. -/
def append (recorder : Recorder) (entry : LogEntry) : Recorder :=
  { recorder with entries := recorder.entries ++ [entry] }

/-- Appends an event that happens now. -/
def note (recorder : Recorder) (now : Int) (event : Event) : Recorder :=
  recorder.append (.ofEvent now event)

/-- The event that a capture begins with. -/
def mounted : Event := ⟨.mount, .null⟩

end Recorder

end AdaptiveQuiz
