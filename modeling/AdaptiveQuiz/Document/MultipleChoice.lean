import AdaptiveQuiz.Schema.Record

/-!
# Multiple choice documents

A question with one prompt and some choices, one of which is correct.

## Main definitions

* `Choice`, `MultipleChoiceDocument`
* `MultipleChoiceDocument.choice?`: the choice of a given id
* `MultipleChoiceDocument.schema`, `MultipleChoiceDocument.toJson`
-/

namespace AdaptiveQuiz

open Schema

/-- One of the answers to choose from. -/
structure Choice where
  id : String
  text : String
  imageUrl : Option String
deriving DecidableEq, Repr

/-- The two spellings of the type of a multiple choice document. -/
inductive TypeSpelling where
  | small
  | capital
deriving DecidableEq, Repr

namespace TypeSpelling

/-- The type as it is spelt. -/
def word : TypeSpelling → String
  | .small => "multiple_choice"
  | .capital => "MULTIPLE_CHOICE"

/-- All spellings. -/
def all : List TypeSpelling := [.small, .capital]

end TypeSpelling

/-- A question with one correct choice. -/
structure MultipleChoiceDocument where
  id : Option String
  type : Option TypeSpelling
  prompt : String
  choices : List Choice
  correctId : String
  explanation : Option String
  metadata : Fields
deriving DecidableEq, Repr

/-- A choice. -/
def Choice.schema : Schema Choice :=
  record "ChoiceOption" fun fields =>
    Choice.mk <$> required fields "id" nonemptyText
      <*> required fields "text" anyText
      <*> optionalNullable fields "image_url" anyText

/-- A choice with all its fields. -/
def Choice.toJson (choice : Choice) : Json :=
  .object [("id", .text choice.id), ("text", .text choice.text),
    ("image_url", .ofText? choice.imageUrl)]

namespace MultipleChoiceDocument

/-- The choice of a given id. -/
def choice? (document : MultipleChoiceDocument) (id : String) : Option Choice :=
  document.choices.find? (·.id == id)

/-- A prompt may be given as an object with a text. -/
def flattenPrompt : Json → Json
  | .object fields => (Fields.get? fields "text").getD (.object fields)
  | value => value

/-- What is wrong with the ids, if anything is: they have to differ, and one is the correct one. -/
def idFault? (document : MultipleChoiceDocument) : Option String :=
  let ids := document.choices.map Choice.id
  if (firstRepeated? [] ids).isSome then some "Option ids must be unique"
  else if ids.contains document.correctId then none
  else some ("correct_option_id '" ++ document.correctId ++ "' is not an option id")

/-- The names of the fields, in order. -/
def fieldNames : List String :=
  ["id", "type", "prompt", "options", "correct_option_id", "explanation", "metadata"]

/-- A multiple choice document. -/
def schema : Schema MultipleChoiceDocument :=
  record "MultipleChoiceDocument" fun fields =>
    (MultipleChoiceDocument.mk <$> optionalNullable fields "id" anyText
      <*> optionalNullable fields "type" (oneOf TypeSpelling.all TypeSpelling.word)
      <*> required fields "prompt" (fun v => anyText (flattenPrompt v))
      <*> required fields "options" (listOfAtLeast 2 Choice.schema)
      <*> required fields "correct_option_id" anyText
      <*> optionalNullable fields "explanation" anyText
      <*> optional fields "metadata" dictionary []).ensure idFault?

/-- A multiple choice document with all its fields. -/
def toJson (document : MultipleChoiceDocument) : Json :=
  .object [("id", .ofText? document.id),
    ("type", .ofText? (document.type.map TypeSpelling.word)), ("prompt", .text document.prompt),
    ("options", .array (document.choices.map Choice.toJson)),
    ("correct_option_id", .text document.correctId),
    ("explanation", .ofText? document.explanation), ("metadata", .object document.metadata)]

end MultipleChoiceDocument

end AdaptiveQuiz
