import AdaptiveQuiz.Json.Display

/-!
# Writing JSON

Values are written on one line without gaps. A double always shows a point or an exponent, so that
it reads back as a double; the doubles that are not finite are written as strings.

## Main definitions

* `Json.print`: the text of a value
-/

namespace AdaptiveQuiz.Json

/-- A character inside of a string. -/
def escapeChar (c : Char) : List Char :=
  if c == '"' || c == '\\' then ['\\', c]
  else if c.toNat < 0x20 then '\\' :: 'u' :: Text.hexadecimal 4 c.toNat
  else [c]

/-- A string with its marks. -/
def printText (s : String) : String :=
  String.ofList ('"' :: s.toList.flatMap escapeChar ++ ['"'])

/-- A double; those that are not finite are written as strings. -/
def printNumber (x : Binary64) : String :=
  match x with
  | .finite _ _ => x.toText numeralStyle
  | _ => printText (x.toText numeralStyle)

mutual

/-- The text of a value. -/
def print : Json → String
  | .null => "null"
  | .bool value => if value then "true" else "false"
  | .integer value => toString value
  | .number value => printNumber value
  | .text value => printText value
  | .array items => "[" ++ ",".intercalate (printItems items) ++ "]"
  | .object fields => "\x7b" ++ ",".intercalate (printFields fields) ++ "\x7d"

/-- The texts of the items of an array. -/
def printItems : List Json → List String
  | [] => []
  | item :: items => print item :: printItems items

/-- The texts of the fields of an object. -/
def printFields : Fields → List String
  | [] => []
  | (name, value) :: fields => (printText name ++ ":" ++ print value) :: printFields fields

end

end AdaptiveQuiz.Json
