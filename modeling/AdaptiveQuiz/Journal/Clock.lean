/-!
# Clocks

A clock is read once for every entry of a journal. What it shows from one reading to the next is up
to it: it may stand still, go on or go back.

## Main definitions

* `Clock`, with `Clock.now`, `Clock.tick`, `Clock.advance`
* `Clock.still`: a clock that stands still until time is let pass
* `Clock.IsSteady`, `Clock.IsStill`: a clock that does not go back, and one that does not go at all
-/

namespace AdaptiveQuiz

/-- What a clock shows, in milliseconds, reading by reading. -/
@[ext]
structure Clock where
  reading : Nat → Int

namespace Clock

variable {clock : Clock}

/-- A clock that stands still. -/
def still (time : Int) : Clock := ⟨fun _ => time⟩

/-- What the clock shows when it is read next. -/
def now (clock : Clock) : Int := clock.reading 0

/-- The clock after it was read. -/
def tick (clock : Clock) : Clock := ⟨fun n => clock.reading (n + 1)⟩

/-- Lets time pass, or go back: all that is read from then on is later by it. -/
def advance (clock : Clock) (milliseconds : Int) : Clock :=
  ⟨fun n => clock.reading n + milliseconds⟩

@[simp] theorem advance_zero (clock : Clock) : clock.advance 0 = clock :=
  Clock.ext (funext fun _ => Int.add_zero _)

/-! ## Clocks that do not go back -/

/-- No reading is earlier than the one before. -/
def IsSteady (clock : Clock) : Prop := ∀ n, clock.reading n ≤ clock.reading (n + 1)

theorem isSteady_still (time : Int) : (still time).IsSteady := fun _ => Int.le_refl _

theorem IsSteady.tick (h : clock.IsSteady) : clock.tick.IsSteady := fun n => h (n + 1)

theorem IsSteady.advance (h : clock.IsSteady) (milliseconds : Int) :
    (clock.advance milliseconds).IsSteady := fun n => Int.add_le_add_right (h n) milliseconds

theorem IsSteady.now_le_tick (h : clock.IsSteady) : clock.now ≤ clock.tick.now := h 0

/-! ## Clocks that stand still -/

/-- Nothing changes by a reading. -/
def IsStill (clock : Clock) : Prop := clock.tick = clock

theorem isStill_still (time : Int) : (still time).IsStill := rfl

theorem IsStill.advance (h : clock.IsStill) (milliseconds : Int) :
    (clock.advance milliseconds).IsStill :=
  congrArg (fun clock => Clock.advance clock milliseconds) h

end Clock

end AdaptiveQuiz
