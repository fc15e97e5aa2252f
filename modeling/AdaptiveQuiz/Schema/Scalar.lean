import AdaptiveQuiz.Json.Display
import AdaptiveQuiz.Numeric.Numeral
import AdaptiveQuiz.Schema.Checked

/-!
# Checking scalars

Each kind of scalar accepts the JSON values that stand for it without loss: a boolean may be given
as 0 or 1 or by a word, an integer as a whole double or as a numeral, a double as an integer or as
a numeral.

## Main definitions

* `Schema`: what checks a JSON value
* `Schema.anyText`, `Schema.nonemptyText`, `Schema.boolean`, `Schema.integer`, `Schema.real`
* `Schema.oneOf`: one of a few words
* `Schema.nullable`: null or a value of a schema
* `Schema.bounded`: a check on the size of a number
-/

namespace AdaptiveQuiz

/-- A schema checks a JSON value. -/
abbrev Schema (α : Type) := Json → Schema.Checked α

namespace Schema

/-- A text. -/
def anyText : Schema String
  | .text s => .accepted s
  | _ => .reject "Input should be a valid string"

/-- A text with at least one character. -/
def nonemptyText : Schema String := fun v =>
  (anyText v).andThen fun s =>
    if s = "" then .reject "String should have at least 1 character" else .accepted s

/-! ## Booleans -/

/-- The words for true. -/
def trueWords : List String := ["1", "true", "t", "yes", "y", "on"]

/-- The words for false. -/
def falseWords : List String := ["0", "false", "f", "no", "n", "off"]

/-- A boolean given by a word, in any ASCII case. -/
def booleanWord? (s : String) : Option Bool :=
  let word := s.map Char.toLower
  if trueWords.contains word then some true
  else if falseWords.contains word then some false
  else none

/-- Whether an integer fits into a signed word of 64 bits. -/
def fitsWord (n : Int) : Bool := decide (-Int.pow 2 63 ≤ n) && decide (n < Int.pow 2 63)

/-- The integer that a double is, if it is one and lies strictly between the ends of the signed
words of 64 bits. -/
def wholeWord? (x : Binary64) : Option Int :=
  match x.truncate? with
  | some n => if x.isIntegral && decide (-Int.pow 2 63 < n) && decide (n < Int.pow 2 63) then some n
    else none
  | none => none

/-- A boolean, the number 0 or 1, or a word for one of the two. -/
def boolean : Schema Bool := fun v =>
  let uninterpretable := "Input should be a valid boolean, unable to interpret input"
  match v with
  | .bool b => .accepted b
  | .integer n =>
    if n = 0 then .accepted false
    else if n = 1 then .accepted true
    else if fitsWord n then .reject uninterpretable
    else .reject "Input should be a valid boolean"
  | .number x =>
    if x.isZero then .accepted false
    else if x = .one then .accepted true
    else match wholeWord? x with
      | some _ => .reject uninterpretable
      | none => .reject "Input should be a valid boolean"
  | .text s =>
    match booleanWord? s with
    | some b => .accepted b
    | none => .reject uninterpretable
  | _ => .reject "Input should be a valid boolean"

/-! ## Numbers -/

/-- The integer that a boolean counts as. -/
def bit (b : Bool) : Int := if b then 1 else 0

/-- What is said of a numeral that is too long, or of a double that is too large. -/
def beyondSize : String := "Unable to parse input string as an integer, exceeded maximum size"

/-- A double without fraction, within the signed words of 64 bits. -/
def integerOfDouble (x : Binary64) : Checked Int :=
  match x.truncate? with
  | none => .reject "Input should be a finite number"
  | some _ =>
    if x.isIntegral then
      match wholeWord? x with
      | some n => .accepted n
      | none => .reject beyondSize
    else .reject "Input should be a valid integer, got a number with a fractional part"

/-- An integer, a boolean, a double without fraction or an integer numeral. -/
def integer : Schema Int
  | .integer n => .accepted n
  | .bool b => .accepted (bit b)
  | .number x => integerOfDouble x
  | .text s =>
    match Numeral.integer s.toList with
    | .ok n => .accepted n
    | .error .malformed =>
      .reject "Input should be a valid integer, unable to parse string as an integer"
    | .error .tooLong => .reject beyondSize
  | _ => .reject "Input should be a valid integer"

/-- A number, a boolean or a real numeral. Integers beyond the range of doubles are rejected. -/
def real : Schema Binary64
  | .number x => .accepted x
  | .integer n =>
    match Binary64.ofInt? n with
    | some x => .accepted x
    | none => .reject "Input should be a valid number"
  | .bool b => .accepted (if b then .one else .zero)
  | .text s =>
    match Numeral.real? s.toList with
    | some x => .accepted x
    | none => .reject "Input should be a valid number, unable to parse string as a number"
  | _ => .reject "Input should be a valid number"

/-- A check on the size of a number, with its message. -/
def bounded {α : Type} (schema : Schema α) (within : α → Bool) (message : String) : Schema α :=
  fun v => (schema v).andThen fun a => if within a then .accepted a else .reject message

/-- An integer that is not below a limit. -/
def atLeast (limit : Int) : Schema Int :=
  bounded integer (fun n => decide (limit ≤ n))
    ("Input should be greater than or equal to " ++ toString limit)

/-- An integer above a limit. -/
def above (limit : Int) : Schema Int :=
  bounded integer (fun n => decide (limit < n)) ("Input should be greater than " ++ toString limit)

/-- A double between zero and one. The upper end is tested first. -/
def fraction : Schema Binary64 :=
  bounded (bounded real (Binary64.atMost · .one) "Input should be less than or equal to 1")
    (Binary64.atMost .zero ·) "Input should be greater than or equal to 0"

/-! ## Words -/

/-- Words in quotes, the last one joined by "or". -/
def alternatives : List String → String
  | [] => ""
  | [w] => "'" ++ w ++ "'"
  | [v, w] => "'" ++ v ++ "' or '" ++ w ++ "'"
  | w :: words => "'" ++ w ++ "', " ++ alternatives words

/-- One of the values, named by its exact word. -/
def oneOf {α : Type} (values : List α) (word : α → String) : Schema α := fun v =>
  let unexpected := Checked.reject ("Input should be " ++ alternatives (values.map word))
  match v with
  | .text s =>
    match values.find? (word · == s) with
    | some a => .accepted a
    | none => unexpected
  | _ => unexpected

/-- Null, or a value of the schema. -/
def nullable {α : Type} (schema : Schema α) : Schema (Option α)
  | .null => .accepted none
  | v => some <$> schema v

/-- Any value. -/
def anything : Schema Json := .accepted

end Schema

end AdaptiveQuiz
