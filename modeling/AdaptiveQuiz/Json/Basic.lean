import AdaptiveQuiz.Numeric.Binary64

/-!
# JSON values

Integers and doubles are told apart, since an integer of any size is kept exactly and the two are
written differently. The fields of an object keep their order.

## Main definitions

* `Json`: a JSON value
* `Fields`: the fields of an object, with `Fields.get?`
* `Json.isTruthy`: whether a value counts as given
* `Json.withoutNulls`: a value without the fields that are null
-/

namespace AdaptiveQuiz

/-- A JSON value. -/
inductive Json where
  | null
  | bool (value : Bool)
  | integer (value : Int)
  | number (value : Binary64)
  | text (value : String)
  | array (items : List Json)
  | object (fields : List (String × Json))
deriving Repr, Inhabited

/-- The fields of an object, in order. -/
abbrev Fields := List (String × Json)

namespace Json

/-! ## Equality -/

mutual

/-- Equality of values is decidable. -/
def decideEq : (x y : Json) → Decidable (x = y)
  | .null, .null => isTrue rfl
  | .bool a, .bool b => if h : a = b then isTrue (h ▸ rfl) else isFalse fun e => h (by injection e)
  | .integer a, .integer b =>
    if h : a = b then isTrue (h ▸ rfl) else isFalse fun e => h (by injection e)
  | .number a, .number b =>
    if h : a = b then isTrue (h ▸ rfl) else isFalse fun e => h (by injection e)
  | .text a, .text b => if h : a = b then isTrue (h ▸ rfl) else isFalse fun e => h (by injection e)
  | .array xs, .array ys =>
    match decideEqItems xs ys with
    | isTrue h => isTrue (h ▸ rfl)
    | isFalse h => isFalse fun e => h (by injection e)
  | .object xs, .object ys =>
    match decideEqFields xs ys with
    | isTrue h => isTrue (h ▸ rfl)
    | isFalse h => isFalse fun e => h (by injection e)
  | .null, .bool _ | .null, .integer _ | .null, .number _ | .null, .text _ | .null, .array _
  | .null, .object _ | .bool _, .null | .bool _, .integer _ | .bool _, .number _
  | .bool _, .text _ | .bool _, .array _ | .bool _, .object _ | .integer _, .null
  | .integer _, .bool _ | .integer _, .number _ | .integer _, .text _ | .integer _, .array _
  | .integer _, .object _ | .number _, .null | .number _, .bool _ | .number _, .integer _
  | .number _, .text _ | .number _, .array _ | .number _, .object _ | .text _, .null
  | .text _, .bool _ | .text _, .integer _ | .text _, .number _ | .text _, .array _
  | .text _, .object _ | .array _, .null | .array _, .bool _ | .array _, .integer _
  | .array _, .number _ | .array _, .text _ | .array _, .object _ | .object _, .null
  | .object _, .bool _ | .object _, .integer _ | .object _, .number _ | .object _, .text _
  | .object _, .array _ => isFalse nofun

/-- Equality of lists of values is decidable. -/
def decideEqItems : (xs ys : List Json) → Decidable (xs = ys)
  | [], [] => isTrue rfl
  | [], _ :: _ | _ :: _, [] => isFalse nofun
  | x :: xs, y :: ys =>
    match decideEq x y, decideEqItems xs ys with
    | isTrue h, isTrue hs => isTrue (h ▸ hs ▸ rfl)
    | isFalse h, _ => isFalse fun e => h (by injection e)
    | _, isFalse hs => isFalse fun e => hs (by injection e)

/-- Equality of lists of fields is decidable. -/
def decideEqFields : (xs ys : Fields) → Decidable (xs = ys)
  | [], [] => isTrue rfl
  | [], _ :: _ | _ :: _, [] => isFalse nofun
  | (k, x) :: xs, (l, y) :: ys =>
    match decEq k l, decideEq x y, decideEqFields xs ys with
    | isTrue hk, isTrue h, isTrue hs => isTrue (hk ▸ h ▸ hs ▸ rfl)
    | isFalse hk, _, _ => isFalse fun e => hk (by injection e with e; injection e)
    | _, isFalse h, _ => isFalse fun e => h (by injection e with e; injection e)
    | _, _, isFalse hs => isFalse fun e => hs (by injection e)

end

instance : DecidableEq Json := decideEq

/-! ## Fields -/

end Json

/-- The value of the first field of a name. -/
def Fields.get? (fields : Fields) (name : String) : Option Json := fields.lookup name

namespace Json

/-- The value of a field of an object; other values have no fields. -/
def field? (name : String) : Json → Option Json
  | .object fields => Fields.get? fields name
  | _ => none

/-! ## Truth -/

/-- Whether a value counts as given: null, false, zero and whatever is empty do not. -/
def isTruthy : Json → Bool
  | .null => false
  | .bool value => value
  | .integer value => value != 0
  | .number value => !value.isZero
  | .text value => value != ""
  | .array items => !items.isEmpty
  | .object fields => !fields.isEmpty

/-- The first value that counts as given. -/
def firstTruthy? (candidates : List (Option Json)) : Option Json :=
  (candidates.filterMap id).find? isTruthy

/-! ## Building values -/

/-- An optional text, null if there is none. -/
def ofText? : Option String → Json
  | none => .null
  | some s => .text s

/-- An optional value, null if there is none. -/
def ofOption {α : Type} (encode : α → Json) : Option α → Json
  | none => .null
  | some a => encode a

/-- An array of texts. -/
def ofTexts (texts : List String) : Json := .array (texts.map .text)

/-! ## Dropping nulls -/

mutual

/-- The value without the fields that are null, at any depth. Nulls in arrays stay. -/
def withoutNulls : Json → Json
  | .array items => .array (withoutNullsItems items)
  | .object fields => .object (withoutNullsFields fields)
  | value => value

/-- The items of an array, each without null fields. -/
def withoutNullsItems : List Json → List Json
  | [] => []
  | item :: items => withoutNulls item :: withoutNullsItems items

/-- The fields of an object that are not null, each without null fields. -/
def withoutNullsFields : Fields → Fields
  | [] => []
  | (_, .null) :: fields => withoutNullsFields fields
  | (name, value) :: fields => (name, withoutNulls value) :: withoutNullsFields fields

end

end Json

end AdaptiveQuiz
