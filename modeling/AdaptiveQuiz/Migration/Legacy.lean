import AdaptiveQuiz.Json.Display

/-!
# Legacy questions

Older multiple choice questions have no fixed shape. Their options are texts or objects, and the
correct one is named by its id, by an answer, by an index or by a flag.

## Main definitions

* `LegacyError`, `LegacyOption`
* `Legacy.correctId?`: the id of the correct option
* `Legacy.migrate`: a legacy question as a multiple choice document
-/

namespace AdaptiveQuiz

/-- Why a legacy question cannot be converted. -/
inductive LegacyError where
  /-- There is no array of options. -/
  | noOptions
  /-- An option is neither a text nor an object. -/
  | badOption (index : Nat) (kind : String)
  /-- Nothing says which option is correct. -/
  | noCorrectOption
deriving DecidableEq, Repr

/-- The error in words. -/
def LegacyError.message : LegacyError → String
  | .noOptions => "Source is missing an options array"
  | .badOption index kind =>
    "Option " ++ toString index ++ " must be a string or an object, got " ++ kind
  | .noCorrectOption => "Could not resolve correct_option_id from legacy data"

/-- An option on its way to a document. An image is kept as it is, if the option was an object. -/
structure LegacyOption where
  id : String
  text : String
  image : Option Json
  /-- Whether the option was flagged as correct. -/
  flagged : Bool
deriving DecidableEq, Repr

/-- A converted option as a JSON value. -/
def LegacyOption.toJson (option : LegacyOption) : Json :=
  .object ([("id", .text option.id), ("text", .text option.text)]
    ++ option.image.toList.map fun image => ("image_url", image))

namespace Legacy

/-- A field, or null if it is not there. -/
def fieldOrNull (fields : Fields) (name : String) : Json := (Fields.get? fields name).getD .null

/-- The id of an option that has none. -/
def indexId (index : Nat) : String := "opt_" ++ toString index

/-- Converts the option at an index. -/
def convertOption (index : Nat) : Json → Except LegacyError LegacyOption
  | .text text => .ok ⟨indexId index, text, none, false⟩
  | .object fields => .ok {
      id := ((Json.firstTruthy? [Fields.get? fields "id"]).map Json.display).getD (indexId index)
      text := ((Fields.get? fields "text").map Json.display).getD ""
      image := some (fieldOrNull fields "image_url")
      flagged := Fields.get? fields "is_correct" == some (.bool true) }
  | value => .error (.badOption index value.kind)

/-- Converts options of which the first has the given index. -/
def convertOptions : Nat → List Json → Except LegacyError (List LegacyOption)
  | _, [] => .ok []
  | index, option :: options => do
    let converted ← convertOption index option
    return converted :: (← convertOptions (index + 1) options)

/-- The integer that an index is given by; a boolean counts as 0 or 1. -/
def index? : Json → Option Int
  | .integer n => some n
  | .bool b => some (if b then 1 else 0)
  | _ => none

/-- The option at an integer index, if there is one. -/
def optionAt? (options : List LegacyOption) (index : Int) : Option LegacyOption :=
  if index < 0 then none else options[index.toNat]?

/-- The correct option where no id is given: by the answer if that is a text, else by the index if
that is an integer, else by the flags. -/
def correctOption? (fields : Fields) (options : List LegacyOption) : Option LegacyOption :=
  match fieldOrNull fields "answer" with
  | .text answer => options.find? fun option => option.text == answer || option.id == answer
  | _ =>
    match index? (fieldOrNull fields "correct_option_index") with
    | some index => optionAt? options index
    | none => options.find? (·.flagged)

/-- The id of the correct option; one that is given wins. -/
def correctId? (fields : Fields) (options : List LegacyOption) : Option String :=
  match Json.firstTruthy? [Fields.get? fields "correct_option_id"] with
  | some id => some id.display
  | none => (correctOption? fields options).map LegacyOption.id

/-- What is asked if nothing is. -/
def noPrompt : Json := .text "No Prompt Found"

/-- The prompt, which has several names and may be an object with a text. -/
def prompt (fields : Fields) : Json :=
  match (Json.firstTruthy? [Fields.get? fields "question", Fields.get? fields "prompt",
      Fields.get? fields "text"]).getD noPrompt with
  | .object details => (Fields.get? details "text").getD noPrompt
  | value => value

/-- The converted document. -/
def document (fields : Fields) (options : List LegacyOption) (correctId : String) : Json :=
  .object [("id", fieldOrNull fields "id"), ("type", .text "multiple_choice"),
    ("prompt", prompt fields), ("options", .array (options.map LegacyOption.toJson)),
    ("correct_option_id", .text correctId),
    ("explanation", (Json.firstTruthy?
      [Fields.get? fields "explanation", Fields.get? fields "solution"]).getD (.text "")),
    ("metadata", .object [("original_id", fieldOrNull fields "id"),
      ("source", .text "legacy_migration")])]

/-- A legacy question as a multiple choice document. -/
def migrate : Json → Except LegacyError Json
  | .object fields =>
    match Fields.get? fields "options" with
    | some (.array options) => do
      let options ← convertOptions 0 options
      match correctId? fields options with
      | none => .error .noCorrectOption
      | some correctId => .ok (document fields options correctId)
    | _ => .error .noOptions
  | _ => .error .noOptions

end Legacy

end AdaptiveQuiz
