/-!
# Steps that may fail

What is done step by step, where every step may fail: it succeeds if all steps do, and otherwise it
fails as the first one does that fails.

## Main statements

* `except_bind_eq_ok`, `except_bind_eq_error`: one step after another
* `except_mapError_eq_ok`, `except_mapError_eq_error`: a step with another form of its error
* `except_map_eq_error`, `except_map_bind`, `except_bind_map`: a step with something made of what it gives
* `except_toOption_bind_eq_some`, `except_toOption_map_eq_some`, `except_toOption_isSome`: a step of which
  only success matters
-/

namespace AdaptiveQuiz

theorem except_bind_eq_ok {ε α β : Type} {x : Except ε α} {f : α → Except ε β} {b : β} :
    (x >>= f) = .ok b ↔ ∃ a, x = .ok a ∧ f a = .ok b := by
  cases x with
  | error error => simp [bind, Except.bind]
  | ok a => simp [bind, Except.bind]

theorem except_mapError_eq_ok {ε ε' α : Type} {f : ε → ε'} {x : Except ε α} {a : α} :
    x.mapError f = .ok a ↔ x = .ok a := by
  cases x with
  | error error => exact iff_of_false nofun nofun
  | ok found =>
    exact ⟨fun h => congrArg _ (Except.ok.inj h), fun h => congrArg _ (Except.ok.inj h)⟩

theorem except_bind_eq_error {ε α β : Type} {x : Except ε α} {f : α → Except ε β} {e : ε} :
    (x >>= f) = .error e ↔ x = .error e ∨ ∃ a, x = .ok a ∧ f a = .error e := by
  cases x with
  | error error => simp [bind, Except.bind]
  | ok a => simp [bind, Except.bind]

theorem except_mapError_eq_error {ε ε' α : Type} {f : ε → ε'} {x : Except ε α} {e : ε'} :
    x.mapError f = .error e ↔ ∃ error, x = .error error ∧ f error = e := by
  cases x with
  | error error =>
    constructor
    · exact fun h => ⟨error, rfl, Except.error.inj h⟩
    · rintro ⟨_, h, rfl⟩
      cases h
      rfl
  | ok a => exact iff_of_false nofun nofun

theorem except_map_eq_error {ε α β : Type} {f : α → β} {x : Except ε α} {e : ε} :
    x.map f = .error e ↔ x = .error e := by
  cases x with
  | error error =>
    exact ⟨fun h => congrArg _ (Except.error.inj h), fun h => congrArg _ (Except.error.inj h)⟩
  | ok a => exact iff_of_false nofun nofun

/-- What is made of the last step is made of the whole. -/
theorem except_map_bind {ε α β γ : Type} {x : Except ε α} {f : α → Except ε β} {g : β → γ} :
    (x >>= f).map g = x >>= fun a => (f a).map g := by
  cases x <;> rfl

theorem except_bind_map {ε α β γ : Type} {x : Except ε α} {g : α → β} {f : β → Except ε γ} :
    (x.map g >>= f) = x >>= fun a => f (g a) := by
  cases x <;> rfl

theorem except_toOption_bind_eq_some {ε α β : Type} {x : Except ε α} {f : α → Option β} {b : β} :
    x.toOption.bind f = some b ↔ ∃ a, x = .ok a ∧ f a = some b := by
  cases x with
  | error error => simp [Except.toOption]
  | ok a => simp [Except.toOption]

theorem except_toOption_map_eq_some {ε α β : Type} {x : Except ε α} {f : α → β} {b : β} :
    x.toOption.map f = some b ↔ ∃ a, x = .ok a ∧ f a = b := by
  cases x with
  | error error => simp [Except.toOption]
  | ok a => simp [Except.toOption]

theorem except_toOption_isSome {ε α : Type} {x : Except ε α} :
    x.toOption.isSome = true ↔ ∃ a, x = .ok a := by
  cases x with
  | error error => simp [Except.toOption]
  | ok a => simp [Except.toOption]

end AdaptiveQuiz
