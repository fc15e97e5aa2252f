import AdaptiveQuiz.Journal.Environment
import Mathlib.Data.List.Basic

/-!
# Listeners of recorders

A recorder that is attached to an environment has one listener there for every signal. Recorders are
told apart by their numbers: if nobody listened under the number of a recorder before it was attached,
nobody does so after it was detached, and the other listeners are as they were.

## Main definitions

* `Environment.listenersOf`: the listeners of a recorder
* `Environment.Spares`: nobody listens under a number

## Main statements

* `Environment.detach_attach`: detaching undoes attaching
* `Environment.count_attach`, `Environment.Spares.count_eq`: the listeners of a recorder that is attached,
  and of one that is not
-/

namespace AdaptiveQuiz

namespace Environment

variable {environment : Environment} {id : Nat}

/-- The listeners of a recorder, one for every signal. -/
def listenersOf (id : Nat) : List (String × Listener) :=
  Signal.all.map fun signal => (signal.eventName, .recorder id signal)

/-- Nobody listens under the number of a recorder. -/
def Spares (environment : Environment) (id : Nat) : Prop :=
  ∀ event signal, (event, .recorder id signal) ∉ environment.listeners

theorem listeners_attach (environment : Environment) (id : Nat) :
    (environment.attach id).listeners = environment.listeners ++ listenersOf id := by
  simp [attach, Signal.all, add, listenersOf]

theorem listeners_detach (environment : Environment) (id : Nat) :
    (environment.detach id).listeners
      = (listenersOf id).foldl (fun listeners listener => listeners.erase listener)
        environment.listeners := rfl

/-- Detaching a recorder removes the listeners that were added for it. -/
theorem detach_attach (h : environment.Spares id) :
    (environment.attach id).detach id = environment := by
  have hfree : ∀ signal : Signal,
      (signal.eventName, Listener.recorder id signal) ∉ environment.listeners :=
    fun signal => h _ signal
  have hlisteners : ((environment.attach id).detach id).listeners = environment.listeners := by
    rw [listeners_detach, listeners_attach]
    -- each listener is found among those that were added, since it is not among those before
    simp [listenersOf, Signal.all, List.erase_append_right _ (hfree _)]
  calc (environment.attach id).detach id
      = ⟨((environment.attach id).detach id).listeners⟩ := rfl
    _ = environment := by rw [hlisteners]

/-- An event is not delivered to a number that nobody listens under. -/
theorem Spares.not_mem_hearers (h : environment.Spares id) (event : String) (signal : Signal) :
    .recorder id signal ∉ environment.hearers event := by
  intro hmem
  obtain ⟨⟨event', listener⟩, hfiltered, rfl⟩ := List.mem_map.mp hmem
  exact h event' signal (List.mem_filter.mp hfiltered).1

theorem Spares.count_eq (h : environment.Spares id) (event : String) (signal : Signal) :
    environment.listeners.count (event, .recorder id signal) = 0 :=
  List.count_eq_zero.mpr (h event signal)

/-- A recorder that was attached listens to every signal, once. -/
theorem count_attach (h : environment.Spares id) (signal : Signal) :
    (environment.attach id).listeners.count (signal.eventName, .recorder id signal) = 1 := by
  rw [listeners_attach, List.count_append, h.count_eq]
  cases signal <;> simp [listenersOf, Signal.all, Signal.eventName]

end Environment

end AdaptiveQuiz
