import AdaptiveQuiz.Journal.Recorder
import AdaptiveQuiz.Numeric.Arithmetic

/-!
# Switchboards

Several recorders may listen to one environment, beside listeners of the host. A switchboard holds
them all. Every recorder has its own clock, whose reading is checked whenever an entry is made; an
entry with a bad reading is refused and ends the delivery of the event.

## Main definitions

* `Channel`: a recorder with its clock
* `HostListener`: a listener of the host
* `Switchboard`, with `Switchboard.enter`, `Switchboard.leave`, `Switchboard.emit`
* `SwitchboardCall`, `SwitchboardReply`, `Switchboard.perform`: one call of any kind
* `Switchboard.run`: a sequence of calls, with all replies

## Main statements

* `Switchboard.channels_modify_self`, `Switchboard.channels_modify_of_ne`: a change of one channel
  leaves the others alone
-/

namespace AdaptiveQuiz

open Schema

/-- A recorder and what its clock shows. -/
structure Channel where
  recorder : Recorder
  clock : Json
deriving DecidableEq, Repr

namespace Channel

/-- A recorder with nothing to tell, whose clock shows zero. -/
def idle : Channel := ⟨.empty, .integer 0⟩

/-- Moves the clock, if it shows a number. -/
def advance (channel : Channel) (milliseconds : Int) : Channel :=
  match channel.clock with
  | .integer n => { channel with clock := .integer (n + milliseconds) }
  | .bool b => { channel with clock := .integer (bit b + milliseconds) }
  | .number x =>
    match Binary64.ofInt? milliseconds with
    | some y => { channel with clock := .number (x.add y) }
    | none => channel
  | _ => channel

end Channel

/-- A listener of the host. It writes down what it is told; then it may remove a listener of the
host from an event; then it may fail. -/
structure HostListener where
  name : String
  /-- The event and the name of the listener that is removed from it. -/
  removes : Option (String × String)
  failure : Option String
deriving DecidableEq, Repr

/-- Why something on a switchboard fails. -/
inductive SwitchboardError where
  /-- The recorder is capturing already. -/
  | alreadyCapturing
  /-- An entry was refused. -/
  | refused (issues : List Issue)
  /-- A listener of the host failed. -/
  | listenerFailed (text : String)
deriving DecidableEq, Repr

namespace SwitchboardError

/-- The failure in words; refused entries have issues instead. -/
def message : SwitchboardError → String
  | .alreadyCapturing => "InteractionLogger is already capturing"
  | .refused _ => ""
  | .listenerFailed text => text

end SwitchboardError

/-- Recorders and listeners of the host on one environment, and what the latter were told. There is
a recorder for every number. -/
structure Switchboard where
  channels : Nat → Channel
  environment : Environment
  hosts : List HostListener
  received : List (String × Fields)

namespace Switchboard

/-- A switchboard on which nothing has happened. -/
def idle : Switchboard := ⟨fun _ => .idle, .empty, [], []⟩

/-- Changes the channel of a recorder. -/
def modify (board : Switchboard) (id : Nat) (f : Channel → Channel) : Switchboard :=
  { board with channels := fun other =>
      if other = id then f (board.channels other) else board.channels other }

@[simp] theorem channels_modify_self (board : Switchboard) (id : Nat) (f : Channel → Channel) :
    (board.modify id f).channels id = f (board.channels id) := by
  simp [modify]

theorem channels_modify_of_ne (board : Switchboard) {id other : Nat} (f : Channel → Channel)
    (h : other ≠ id) : (board.modify id f).channels other = board.channels other := by
  simp [modify, h]

/-- The journal of a recorder. -/
def journal (board : Switchboard) (id : Nat) : List LogEntry := (board.channels id).recorder.entries

/-- Sets the clock of a recorder to any value. -/
def setClock (board : Switchboard) (id : Nat) (reading : Json) : Switchboard :=
  board.modify id fun channel => { channel with clock := reading }

/-- Moves the clock of a recorder. -/
def advance (board : Switchboard) (id : Nat) (milliseconds : Int) : Switchboard :=
  board.modify id (·.advance milliseconds)

/-- Sets the state of the capture of a recorder. -/
def setCapture (board : Switchboard) (id : Nat) (capture : Capture) : Switchboard :=
  board.modify id fun channel =>
    { channel with recorder := { channel.recorder with capture := capture } }

/-- The state of the capture of a recorder. -/
def captureOf (board : Switchboard) (id : Nat) : Capture := (board.channels id).recorder.capture

/-- Makes an entry of unchecked parts in the journal of a recorder, if its clock allows. -/
def log (board : Switchboard) (id : Nat) (kind payload : Json) :
    Except SwitchboardError (Switchboard × LogEntry) :=
  match LogEntry.check kind payload (board.channels id).clock with
  | .accepted entry =>
    .ok (board.modify id fun channel =>
      { channel with recorder := channel.recorder.append entry }, entry)
  | .rejected first others => .error (.refused (first :: others))

/-- Makes an entry for an event in the journal of a recorder. -/
def note (board : Switchboard) (id : Nat) (event : Event) : Except SwitchboardError Switchboard :=
  (board.log id (.text event.kind.word) event.payload).map Prod.fst

/-- Opens the capture of a recorder. The first entry is made before the environment is attached. -/
def enter (board : Switchboard) (id : Nat) (attached : Bool) :
    Switchboard × Except SwitchboardError Unit :=
  if board.captureOf id != .closed then (board, .error .alreadyCapturing)
  else
    match board.note id Recorder.mounted with
    | .error error => (board.setCapture id .stuck, .error error)
    | .ok noted =>
      let opened := noted.setCapture id (.opened attached)
      (if attached then { opened with environment := opened.environment.attach id } else opened,
        .ok ())

/-- Closes the capture of a recorder, if it is open. -/
def leave (board : Switchboard) (id : Nat) : Switchboard :=
  match board.captureOf id with
  | .opened attached =>
    let closed := board.setCapture id .closed
    if attached then { closed with environment := closed.environment.detach id } else closed
  | .closed | .stuck => board

/-- What a listener of the host does when it is told about an event. -/
def tellHost (board : Switchboard) (detail : Fields) (name : String) :
    Switchboard × Except SwitchboardError Unit :=
  let told := { board with received := board.received ++ [(name, detail)] }
  match board.hosts.find? (·.name == name) with
  | none => (told, .ok ())
  | some host =>
    let told := match host.removes with
      | some (event, other) =>
        { told with environment := told.environment.remove event (.host other) }
      | none => told
    (told, match host.failure with
      | some text => .error (.listenerFailed text)
      | none => .ok ())

/-- Tells one listener about an event with some details. -/
def tell (board : Switchboard) (detail : Fields) :
    Listener → Switchboard × Except SwitchboardError Unit
  | .host name => board.tellHost detail name
  | .recorder id signal =>
    match board.note id (signal.event detail) with
    | .ok board => (board, .ok ())
    | .error error => (board, .error error)

/-- Tells some listeners about an event, one after the other, until one fails. -/
def deliver (detail : Fields) :
    List Listener → Switchboard → Switchboard × Except SwitchboardError Unit
  | [], board => (board, .ok ())
  | listener :: listeners, board =>
    match board.tell detail listener with
    | (board, .ok ()) => deliver detail listeners board
    | (board, .error error) => (board, .error error)

/-- Delivers an event to those who listen to it now. Whoever is removed during the delivery is told
nevertheless. -/
def emit (board : Switchboard) (event : String) (detail : Fields) :
    Switchboard × Except SwitchboardError Unit :=
  deliver detail (board.environment.hearers event) board

/-- Makes a listener of the host known. The first description of a name holds. -/
def introduce (board : Switchboard) (host : HostListener) : Switchboard :=
  if board.hosts.any (·.name == host.name) then board
  else { board with hosts := board.hosts ++ [host] }

/-- Adds a listener of the host to an event. -/
def listen (board : Switchboard) (event : String) (host : HostListener) : Switchboard :=
  let board := board.introduce host
  { board with environment := board.environment.add event (.host host.name) }

/-- Removes a listener of the host from an event. -/
def unlisten (board : Switchboard) (event : String) (host : HostListener) : Switchboard :=
  let board := board.introduce host
  { board with environment := board.environment.remove event (.host host.name) }

end Switchboard

/-! ## Sequences of calls -/

/-- What can be done with a switchboard. Recorders are given by their numbers. -/
inductive SwitchboardCall where
  | enter (id : Nat) (attached : Bool)
  | leave (id : Nat)
  | log (id : Nat) (kind payload : Json)
  | setClock (id : Nat) (reading : Json)
  | advance (id : Nat) (milliseconds : Int)
  | emit (event : String) (detail : Fields)
  | listen (event : String) (host : HostListener)
  | unlisten (event : String) (host : HostListener)
deriving DecidableEq, Repr

/-- What comes back. -/
inductive SwitchboardReply where
  | done
  | logged (entry : LogEntry)
  | failed (error : SwitchboardError)
deriving DecidableEq, Repr

/-- The reply for something that may fail. -/
def SwitchboardReply.ofExcept : Except SwitchboardError Unit → SwitchboardReply
  | .ok () => .done
  | .error error => .failed error

namespace Switchboard

/-- Makes one call. -/
def perform (board : Switchboard) : SwitchboardCall → Switchboard × SwitchboardReply
  | .enter id attached =>
    let (board, answer) := board.enter id attached
    (board, .ofExcept answer)
  | .leave id => (board.leave id, .done)
  | .log id kind payload =>
    match board.log id kind payload with
    | .ok (board, entry) => (board, .logged entry)
    | .error error => (board, .failed error)
  | .setClock id reading => (board.setClock id reading, .done)
  | .advance id milliseconds => (board.advance id milliseconds, .done)
  | .emit event detail =>
    let (board, answer) := board.emit event detail
    (board, .ofExcept answer)
  | .listen event host => (board.listen event host, .done)
  | .unlisten event host => (board.unlisten event host, .done)

/-- Makes a sequence of calls. -/
def run (board : Switchboard) : List SwitchboardCall → Switchboard × List SwitchboardReply
  | [] => (board, [])
  | call :: calls =>
    let (next, reply) := board.perform call
    let (last, replies) := next.run calls
    (last, reply :: replies)

end Switchboard

end AdaptiveQuiz
