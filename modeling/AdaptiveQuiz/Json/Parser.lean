import AdaptiveQuiz.Json.Token

/-!
# Reading JSON

The tokens of a text are read from left to right. The arrays and objects that are still open are
kept as a list of frames, the innermost one first, so that one pass over the tokens is enough.

## Main definitions

* `Json.Frame`: an array or object under construction
* `Json.ofTokens?`: the value that a list of tokens forms
* `Json.parse?`: the value that a text stands for
-/

namespace AdaptiveQuiz.Json

/-- An array or object under construction, its newest part first. -/
inductive Frame where
  | array (done : List Json)
  | object (done : Fields) (name : String)

/-- What may stand at the place that the reader has reached. -/
inductive Expecting where
  /-- A value. -/
  | value
  /-- A value or the end of the array just opened. -/
  | firstItem
  /-- A field name. -/
  | name (done : Fields)
  /-- A field name or the end of the object just opened. -/
  | firstName
  /-- The colon behind a field name. -/
  | colon (done : Fields) (name : String)
  /-- What follows a finished value. -/
  | after (v : Json)

/-- One step of the reader: the frames and the expectation that follow a token. -/
def advance? : List Frame → Expecting → Token → Option (List Frame × Expecting)
  | frames, .value, .value v => some (frames, .after v)
  | frames, .value, .openArray => some (.array [] :: frames, .firstItem)
  | frames, .value, .openObject => some (frames, .firstName)
  | frames, .firstItem, .value v => some (frames, .after v)
  | frames, .firstItem, .openArray => some (.array [] :: frames, .firstItem)
  | frames, .firstItem, .openObject => some (frames, .firstName)
  | .array done :: frames, .firstItem, .closeArray => some (frames, .after (.array done.reverse))
  | frames, .firstName, .value (.text name) => some (frames, .colon [] name)
  | frames, .firstName, .closeObject => some (frames, .after (.object []))
  | frames, .name done, .value (.text name) => some (frames, .colon done name)
  | frames, .colon done name, .colon => some (.object done name :: frames, .value)
  | .array done :: frames, .after v, .comma => some (.array (v :: done) :: frames, .value)
  | .array done :: frames, .after v, .closeArray =>
    some (frames, .after (.array (v :: done).reverse))
  | .object done name :: frames, .after v, .comma => some (frames, .name ((name, v) :: done))
  | .object done name :: frames, .after v, .closeObject =>
    some (frames, .after (.object ((name, v) :: done).reverse))
  | _, _, _ => none

/-- The value that a list of tokens forms in a given state of the reader. -/
def read? : List Frame → Expecting → List Token → Option Json
  | [], .after v, [] => some v
  | _, _, [] => none
  | frames, expecting, token :: tokens =>
    (advance? frames expecting token).bind fun (frames, expecting) => read? frames expecting tokens

/-- The value that a list of tokens forms. -/
def ofTokens? (tokens : List Token) : Option Json := read? [] .value tokens

/-- The value that a text stands for. -/
def parse? (s : String) : Option Json := (Token.scan? s.toList).bind ofTokens?

end AdaptiveQuiz.Json
