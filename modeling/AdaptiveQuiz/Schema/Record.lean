import AdaptiveQuiz.Schema.Scalar

/-!
# Checking arrays and objects

An array is checked item by item and an object field by field, in the order in which its schema
names the fields. Fields that the schema does not name are ignored.

## Main definitions

* `Schema.listOf`, `Schema.nonemptyListOf`: arrays
* `Schema.record`: objects, with `Schema.required` and `Schema.optional` for their fields
-/

namespace AdaptiveQuiz.Schema

variable {α : Type}

/-! ## Arrays -/

/-- Checks items whose first one has the given index. -/
def items (schema : Schema α) : Nat → List Json → Checked (List α)
  | _, [] => .accepted []
  | index, v :: vs =>
    List.cons <$> (schema v).within (.item index) <*> items schema (index + 1) vs

/-- An array whose items fit a schema. -/
def arrayOf (message : String) (schema : Schema α) : Schema (List α)
  | .array vs => items schema 0 vs
  | _ => .reject message

/-- A list whose items fit a schema. -/
def listOf (schema : Schema α) : Schema (List α) := arrayOf "Input should be a valid list" schema

/-- A list with a least number of items, which is tested once all items fit. -/
def listOfAtLeast (least : Nat) (schema : Schema α) : Schema (List α) := fun v =>
  (listOf schema v).andThen fun values =>
    if values.length < least then
      .reject ("List should have at least " ++ toString least
        ++ (if least = 1 then " item" else " items") ++ " after validation, not "
        ++ toString values.length)
    else .accepted values

/-! ## Objects -/

/-- An object with a required field. -/
def required (fields : Fields) (name : String) (schema : Schema α) : Checked α :=
  match Fields.get? fields name with
  | none => (Checked.reject "Field required").within (.field name)
  | some v => (schema v).within (.field name)

/-- An object with a field that has a default. -/
def optional (fields : Fields) (name : String) (schema : Schema α) (default : α) : Checked α :=
  match Fields.get? fields name with
  | none => .accepted default
  | some v => (schema v).within (.field name)

/-- An object with a field that may be absent or null. -/
def optionalNullable (fields : Fields) (name : String) (schema : Schema α) : Checked (Option α) :=
  optional fields name (nullable schema) none

/-- An object whose fields are checked by a function. -/
def record (name : String) (check : Fields → Checked α) : Schema α
  | .object fields => check fields
  | _ => .reject ("Input should be a valid dictionary or instance of " ++ name)

/-- An object with any fields. -/
def dictionary : Schema Fields
  | .object fields => .accepted fields
  | _ => .reject "Input should be a valid dictionary"

/-- The first of some texts that occurs again later, said of the place where it occurs again: the
first text that occurs before. -/
def firstRepeated? (seen : List String) : List String → Option String
  | [] => none
  | s :: rest => if seen.contains s then some s else firstRepeated? (s :: seen) rest

end AdaptiveQuiz.Schema
