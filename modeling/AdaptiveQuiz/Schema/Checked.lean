/-!
# Checked values

Checking a value against a schema finds all its faults, not only the first one. The outcome is a
value of the checked type, or a list of issues that is never empty. Outcomes are combined side by
side: the combination is accepted if all parts are, and otherwise has the issues of all parts, in
order.

## Main definitions

* `Schema.Step`, `Schema.Issue`: a place inside of a value, and what is wrong there
* `Schema.Checked`: the outcome of a check
* `Checked.within`: the same outcome seen from an enclosing value
* `Checked.ensure`, `Checked.andThen`: checks that need the parts to be accepted first

## Main statements

* `Checked.accepted_seq_accepted`, `Checked.issues_seq`: combining side by side loses no issue
-/

namespace AdaptiveQuiz.Schema

/-- One step into a value: to a field or to an item. -/
inductive Step where
  | field (name : String)
  | item (index : Nat)
deriving DecidableEq, Repr

/-- The text of a step. -/
def Step.text : Step → String
  | .field name => name
  | .item index => toString index

/-- Something wrong at a place inside of a value. -/
structure Issue where
  path : List Step
  message : String
deriving DecidableEq, Repr

/-- The place of an issue as a text; the root is written as a dollar sign. -/
def Issue.location (issue : Issue) : String :=
  if issue.path.isEmpty then "$" else ".".intercalate (issue.path.map Step.text)

/-- The same issue seen from an enclosing value. -/
def Issue.within (step : Step) (issue : Issue) : Issue :=
  { issue with path := step :: issue.path }

/-- The outcome of a check: a value, or at least one issue. -/
inductive Checked (α : Type) where
  | accepted (value : α)
  | rejected (first : Issue) (others : List Issue)
deriving DecidableEq, Repr

namespace Checked

variable {α β : Type}

/-- A rejection with one issue at the value itself. -/
def reject (message : String) : Checked α := .rejected ⟨[], message⟩ []

/-- All issues of an outcome. -/
def issues : Checked α → List Issue
  | .accepted _ => []
  | .rejected first others => first :: others

/-- The accepted value, if there is one. -/
def value? : Checked α → Option α
  | .accepted value => some value
  | .rejected _ _ => none

/-- The outcome as a value or a list of issues. -/
def toExcept : Checked α → Except (List Issue) α
  | .accepted value => .ok value
  | .rejected first others => .error (first :: others)

/-- Applies a function to the accepted value. -/
protected def map (f : α → β) : Checked α → Checked β
  | .accepted value => .accepted (f value)
  | .rejected first others => .rejected first others

/-- Combines two outcomes side by side, with the issues of both. -/
protected def seq (f : Checked (α → β)) (x : Checked α) : Checked β :=
  match f, x with
  | .accepted f, x => x.map f
  | .rejected first others, x => .rejected first (others ++ x.issues)

instance : Applicative Checked where
  pure := .accepted
  map := Checked.map
  seq f x := Checked.seq f (x ())

/-- The same outcome with its issues seen from an enclosing value. -/
def within (step : Step) : Checked α → Checked α
  | .accepted value => .accepted value
  | .rejected first others => .rejected (first.within step) (others.map (Issue.within step))

/-- A further check, made only if the value was accepted so far. -/
def andThen (x : Checked α) (f : α → Checked β) : Checked β :=
  match x with
  | .accepted value => f value
  | .rejected first others => .rejected first others

/-- A condition on the accepted value; the function gives what is wrong, if anything is. -/
def ensure (x : Checked α) (fault? : α → Option String) : Checked α :=
  x.andThen fun value =>
    match fault? value with
    | none => .accepted value
    | some fault => reject ("Value error, " ++ fault)

/-! ## How outcomes combine -/

@[simp] theorem map_accepted (f : α → β) (value : α) :
    f <$> (accepted value) = accepted (f value) := rfl

@[simp] theorem map_rejected (f : α → β) (first : Issue) (others : List Issue) :
    f <$> (rejected first others : Checked α) = rejected first others := rfl

@[simp] theorem accepted_seq_accepted (f : α → β) (value : α) :
    (accepted f <*> accepted value) = accepted (f value) := rfl

@[simp] theorem within_accepted (step : Step) (value : α) :
    (accepted value).within step = accepted value := rfl

@[simp] theorem andThen_accepted (value : α) (f : α → Checked β) :
    (accepted value).andThen f = f value := rfl

@[simp] theorem issues_accepted (value : α) : (accepted value).issues = [] := rfl

/-- The issues of a combination are those of its parts, in order. -/
theorem issues_seq (f : Checked (α → β)) (x : Checked α) :
    (f <*> x).issues = f.issues ++ x.issues := by
  cases f with
  | accepted f => cases x with
    | accepted value => rfl
    | rejected first others => rfl
  | rejected first others => rfl

/-- An outcome has a value exactly if it has no issue. -/
theorem value?_isSome_iff (x : Checked α) : x.value?.isSome ↔ x.issues = [] := by
  cases x with
  | accepted value => simp [value?, issues]
  | rejected first others => simp [value?, issues]

end Checked

end AdaptiveQuiz.Schema
