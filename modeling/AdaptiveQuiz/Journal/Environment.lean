import AdaptiveQuiz.Journal.Entry

/-!
# The host environment

The host tells its listeners when the question gains or loses focus or changes its visibility. A
recorder listens with one listener for each of these signals; the host may have listeners of its
own, for events of any name.

## Main definitions

* `Signal`: what a recorder listens to, with `Signal.event`: what it makes of it
* `Listener`, `Environment`
* `Environment.attach`, `Environment.detach`: adding and removing the listeners of a recorder
-/

namespace AdaptiveQuiz

/-- What a recorder listens to. -/
inductive Signal where
  | focus
  | blur
  | visibility
deriving DecidableEq, Repr

namespace Signal

/-- The name of the event that carries a signal. -/
def eventName : Signal → String
  | .focus => "focus"
  | .blur => "blur"
  | .visibility => "visibilitychange"

/-- All signals. -/
def all : List Signal := [.focus, .blur, .visibility]

/-- The details of a signal; nothing if there are none. -/
def payload (detail : Fields) : Json := if detail.isEmpty then .null else .object detail

/-- Whether the details of a change of visibility say that the question is hidden. -/
def hides (detail : Fields) : Bool := ((Fields.get? detail "hidden").map Json.isTruthy).getD false

/-- What a recorder makes of a signal: being hidden counts as losing focus, being shown as gaining
it. -/
def event (signal : Signal) (detail : Fields) : Event :=
  match signal with
  | .focus => ⟨.focus, payload detail⟩
  | .blur => ⟨.blur, payload detail⟩
  | .visibility =>
    if hides detail then ⟨.blur, .object [("reason", .text "visibility_hidden")]⟩
    else ⟨.focus, .object [("reason", .text "visibility_visible")]⟩

/-- Whatever the signal, it is about the focus. -/
theorem kind_event (signal : Signal) (detail : Fields) :
    (signal.event detail).kind = .focus ∨ (signal.event detail).kind = .blur := by
  cases signal with
  | focus => exact Or.inl rfl
  | blur => exact Or.inr rfl
  | visibility =>
    simp only [event]
    cases hides detail with
    | true => exact Or.inr rfl
    | false => exact Or.inl rfl

end Signal

/-- Something that is told about events: a recorder, for one of its signals, or a listener of the
host. -/
inductive Listener where
  | recorder (id : Nat) (signal : Signal)
  | host (name : String)
deriving DecidableEq, Repr

/-- The listeners of a host, each under the name of an event, in the order in which they were
added. -/
structure Environment where
  listeners : List (String × Listener)
deriving DecidableEq, Repr

namespace Environment

/-- An environment nobody listens to. -/
def empty : Environment := ⟨[]⟩

/-- Adds a listener for an event. -/
def add (environment : Environment) (event : String) (listener : Listener) : Environment :=
  ⟨environment.listeners ++ [(event, listener)]⟩

/-- Removes a listener from an event, once; a listener that is not there cannot be removed. -/
def remove (environment : Environment) (event : String) (listener : Listener) : Environment :=
  ⟨environment.listeners.erase (event, listener)⟩

/-- The listeners of an event, in order. -/
def hearers (environment : Environment) (event : String) : List Listener :=
  (environment.listeners.filter (·.1 == event)).map Prod.snd

/-- The number of listeners, of one event or of all. -/
def count (environment : Environment) : Option String → Nat
  | some event => (environment.hearers event).length
  | none => environment.listeners.length

/-- Adds the listeners of a recorder. -/
def attach (environment : Environment) (id : Nat) : Environment :=
  Signal.all.foldl (fun env signal => env.add signal.eventName (.recorder id signal)) environment

/-- Removes the listeners of a recorder. -/
def detach (environment : Environment) (id : Nat) : Environment :=
  Signal.all.foldl (fun env signal => env.remove signal.eventName (.recorder id signal)) environment

end Environment

end AdaptiveQuiz
