import AdaptiveQuiz.Json.Display
import AdaptiveQuiz.Text.Blank
import AdaptiveQuiz.Text.Case
import AdaptiveQuiz.Text.Digit

/-!
# Routing

A raw question names its type in one of several ways. The type and version in its `meta` object win;
otherwise the fields `template_id`, `template` and `type` are tried in turn, each of which may hold
an alias of a type.

## Main definitions

* `RoutingError`
* `Routing.aliases`: the spellings of the built-in types
* `Routing.resolve`: the type and the version that a raw question names
-/

namespace AdaptiveQuiz

/-- Why a raw question names no type. -/
inductive RoutingError where
  /-- The question is not an object. -/
  | notAnObject (kind : String)
  /-- The fields that name a type hold unknown spellings. -/
  | unknownSpellings (fields : List (String × String))
  /-- No field names a type. -/
  | untyped
  /-- The version is a text that is not an integer numeral. -/
  | versionNotNumeral (text : String)
  /-- The version is a text with more digits than are read. -/
  | versionTooLong (digits : Nat)
  /-- The version is of a kind that is no number. -/
  | versionOfKind (kind : String)
  /-- The version is an infinity. -/
  | versionInfinite
  /-- The version is a double that is no number. -/
  | versionNotNumber
deriving DecidableEq, Repr

/-- The error in words. A long text is cut. -/
def RoutingError.message : RoutingError → String
  | .notAnObject kind => "'" ++ kind ++ "' object has no attribute 'get'"
  | .unknownSpellings fields => "Unknown question type (" ++ ", ".intercalate
      (fields.map fun (name, value) => name ++ "='" ++ value ++ "'") ++ ")"
  | .untyped => "Question has no meta.type, template or type field"
  | .versionNotNumeral text =>
    "invalid literal for int() with base 10: " ++ String.ofList ((Text.quote text).toList.take 200)
  | .versionTooLong digits =>
    "Exceeds the limit (4300 digits) for integer string conversion: value has " ++ toString digits
      ++ " digits; use sys.set_int_max_str_digits() to increase the limit"
  | .versionOfKind kind =>
    "int() argument must be a string, a bytes-like object or a real number, not '" ++ kind ++ "'"
  | .versionInfinite => "cannot convert float infinity to integer"
  | .versionNotNumber => "cannot convert float NaN to integer"

namespace Routing

/-- The spellings of the built-in types, with the ids that they stand for. -/
def aliases : List (String × String) :=
  [("multiple-choice", "multiple-choice"), ("mcq", "multiple-choice"),
    ("mcq-branching", "mcq-branching"), ("branching", "mcq-branching"),
    ("mcq-declarative", "mcq-declarative"), ("v3-declarative-mcq", "mcq-declarative")]

/-- A spelling without blanks around it, in small letters and with hyphens for low lines. -/
def normalize (spelling : String) : String :=
  String.ofList ((Text.smalls (Text.trim Text.isBlank spelling.toList)).map
    fun c => if c = '_' then '-' else c)

/-- The fields that may name a type, in the order in which they are tried. -/
def typeFields : List String := ["template_id", "template", "type"]

/-- The texts of the fields that may name a type. -/
def spellings (question : Fields) : List (String × String) :=
  typeFields.filterMap fun name =>
    match Fields.get? question name with
    | some (.text value) => some (name, value)
    | _ => none

/-- The id that the first known spelling stands for. -/
def aliased? (question : Fields) : Option String :=
  (spellings question).findSome? fun (_, value) => aliases.lookup (normalize value)

/-- How many digits of a version are read at most. Numbers are written without a limit. -/
def maxVersionDigits : Nat := 4300

/-- The version that a text stands for: an integer numeral with spaces around it, a sign, and digits
of any script with single low lines between them. That there are too many digits is noticed before
what follows them. -/
def versionOfText (text : String) : Except RoutingError Int :=
  let (negative, cs) := Text.splitSign (Text.trim Text.isSpace text.toList)
  let inRun (c : Char) : Bool := c == '_' || (Text.digitValue? c).isSome
  match Text.digitRun? Text.digitValue? (cs.takeWhile inRun) with
  | none => .error (.versionNotNumeral text)
  | some digits =>
    if maxVersionDigits < digits.length then .error (.versionTooLong digits.length)
    else if (cs.dropWhile inRun).isEmpty then
      .ok (Text.withSign negative (Text.ofDigits digits))
    else .error (.versionNotNumeral text)

/-- The version that a value stands for. -/
def version : Json → Except RoutingError Int
  | .integer n => .ok n
  | .bool b => .ok (if b then 1 else 0)
  | .number x =>
    match x, x.truncate? with
    | _, some n => .ok n
    | .infinity _, none => .error .versionInfinite
    | _, none => .error .versionNotNumber
  | .text s => versionOfText s
  | value => .error (.versionOfKind value.kind)

/-- The version of a `meta` object, if it has one. -/
def metaVersion (details : Fields) : Except RoutingError (Option Int) :=
  match Fields.get? details "version" with
  | none => .ok none
  | some .null => .ok none
  | some value => some <$> version value

/-- The type that the `meta` object of a question gives, if it does. -/
def metaType? (question : Fields) : Option (Json × Fields) :=
  match Fields.get? question "meta" with
  | some (.object details) =>
    (Json.firstTruthy? [Fields.get? details "type"]).map fun type => (type, details)
  | _ => none

/-- The type that the fields of a question name, without version. -/
def fromSpellings (question : Fields) : Except RoutingError (String × Option Int) :=
  match aliased? question with
  | some id => .ok (id, none)
  | none =>
    if (spellings question).isEmpty then .error .untyped
    else .error (.unknownSpellings (spellings question))

/-- The type and the version that a raw question names. -/
def resolve : Json → Except RoutingError (String × Option Int)
  | .object question =>
    match metaType? question with
    | some (type, details) => (metaVersion details).map fun version => (type.display, version)
    | none => fromSpellings question
  | value => .error (.notAnObject value.kind)

end Routing

end AdaptiveQuiz
