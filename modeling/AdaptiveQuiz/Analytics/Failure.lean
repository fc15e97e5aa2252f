import AdaptiveQuiz.Document.Review

/-!
# Failures of analytics

Journals are not checked for the details that analytics reads, so a journal may be without them, or
hold something of another kind in their place.

## Main definitions

* `AnalyticsFailure`, with `AnalyticsFailure.message`
-/

namespace AdaptiveQuiz

/-- Why no record can be computed. Kinds of values are given by their words. -/
inductive AnalyticsFailure where
  /-- The journal has no event that ends a session. -/
  | noTerminalEvent
  /-- Details that should be an object are of another kind. -/
  | notAnObject (kind : String)
  /-- The document is of a kind without the part that is needed. -/
  | documentLacks (kind : DocumentKind) (part : String)
  /-- A path is of a kind that has no members. -/
  | pathNotIterable (kind : String)
  /-- A transition does not say from which stage. -/
  | originMissing
  /-- The details of a transition are an array. -/
  | originInArray
  /-- The details of a transition are a text. -/
  | originInText
  /-- The details of a transition are of a kind without fields. -/
  | originInScalar (kind : String)
  /-- A path contains an array or an object, which cannot be the id of a stage. -/
  | unhashable (kind : String)
  /-- A path contains something that is not a text. -/
  | pathItemNotText (index : Nat) (kind : String)
  /-- A duration is beyond the range of doubles. -/
  | durationTooLarge
  /-- The analytics of the manifest failed in its own way. -/
  | raised (text : String)
deriving DecidableEq, Repr

namespace AnalyticsFailure

/-- A failure in words. -/
def message : AnalyticsFailure → String
  | .noTerminalEvent => "Log has no terminal submit event"
  | .notAnObject kind => "'" ++ kind ++ "' object has no attribute 'get'"
  | .documentLacks kind part => "'" ++ kind.word ++ "' object has no attribute '" ++ part ++ "'"
  | .pathNotIterable kind => "'" ++ kind ++ "' object is not iterable"
  | .originMissing => "'from'"
  | .originInArray => "list indices must be integers or slices, not str"
  | .originInText => "string indices must be integers, not 'str'"
  | .originInScalar kind => "'" ++ kind ++ "' object is not subscriptable"
  | .unhashable kind => "unhashable type: '" ++ kind ++ "'"
  | .pathItemNotText index kind =>
    "sequence item " ++ toString index ++ ": expected str instance, " ++ kind ++ " found"
  | .durationTooLarge => "int too large to convert to float"
  | .raised text => text

end AnalyticsFailure

end AdaptiveQuiz
