import AdaptiveQuiz.Json.Basic
import AdaptiveQuiz.Numeric.Shortest
import AdaptiveQuiz.Text.Quoted

/-!
# Values in messages

How a JSON value reads in a message or as a text: a text as it is, anything else as a literal,
with quoted texts inside of arrays and objects.

## Main definitions

* `Json.kind`: the word for the kind of a value
* `Json.display`: a value as a text
-/

namespace AdaptiveQuiz.Json

/-- Doubles are written positionally from `0.0001` up to below `10 ^ 16`, and otherwise with an
exponent of at least two digits. -/
def numeralStyle : Binary64.NumeralStyle := ⟨-4, 16, 2⟩

/-- The word that messages use for the kind of a value. -/
def kind : Json → String
  | .null => "NoneType"
  | .bool _ => "bool"
  | .integer _ => "int"
  | .number _ => "float"
  | .text _ => "str"
  | .array _ => "list"
  | .object _ => "dict"

mutual

/-- A value as a literal. -/
def literal : Json → String
  | .null => "None"
  | .bool value => if value then "True" else "False"
  | .integer value => toString value
  | .number value => value.toText numeralStyle
  | .text value => Text.quote value
  | .array items => "[" ++ ", ".intercalate (literalItems items) ++ "]"
  | .object fields => "\x7b" ++ ", ".intercalate (literalFields fields) ++ "\x7d"

/-- The items of an array as literals. -/
def literalItems : List Json → List String
  | [] => []
  | item :: items => literal item :: literalItems items

/-- The fields of an object as literals. -/
def literalFields : Fields → List String
  | [] => []
  | (name, value) :: fields => (Text.quote name ++ ": " ++ literal value) :: literalFields fields

end

/-- A value as a text: a text stands for itself. Integers are written in full, also those with more
digits than are read: a limit on written digits is not modelled. -/
def display : Json → String
  | .text value => value
  | value => value.literal

end AdaptiveQuiz.Json
