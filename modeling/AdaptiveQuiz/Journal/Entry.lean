import AdaptiveQuiz.Schema.Record

/-!
# Journal entries

A journal is a list of entries, oldest first. An entry says what happened, with details, and when.
Entries are only ever appended.

## Main definitions

* `EventKind`, `Event`, `LogEntry`
* `LogEntry.check`: an entry made of unchecked parts
-/

namespace AdaptiveQuiz

open Schema

/-- The kinds of events that a journal knows. -/
inductive EventKind where
  | mount
  | view
  | focus
  | blur
  | click
  | keypress
  | answerSelect
  | submit
  | transition
  | selectOption
  | submitStage
deriving DecidableEq, Repr

namespace EventKind

/-- The word for a kind of event. -/
def word : EventKind → String
  | .mount => "mount"
  | .view => "view"
  | .focus => "focus"
  | .blur => "blur"
  | .click => "click"
  | .keypress => "keypress"
  | .answerSelect => "answer_select"
  | .submit => "submit"
  | .transition => "transition"
  | .selectOption => "select_option"
  | .submitStage => "submit_stage"

/-- All kinds of events. -/
def all : List EventKind :=
  [.mount, .view, .focus, .blur, .click, .keypress, .answerSelect, .submit, .transition,
    .selectOption, .submitStage]

end EventKind

/-- Something that happens. -/
structure Event where
  kind : EventKind
  payload : Json
deriving DecidableEq, Repr

/-- Something that happened, with the time in milliseconds. -/
structure LogEntry where
  kind : EventKind
  payload : Json
  timestamp : Int
deriving DecidableEq, Repr

namespace LogEntry

/-- An event that happens now. -/
def ofEvent (now : Int) (event : Event) : LogEntry := ⟨event.kind, event.payload, now⟩

/-- An entry of a journal. -/
def schema : Schema LogEntry :=
  record "LogEntry" fun fields =>
    LogEntry.mk <$> required fields "type" (oneOf EventKind.all EventKind.word)
      <*> optional fields "payload" anything .null
      <*> required fields "timestamp" integer

/-- An entry made of unchecked parts. -/
def check (kind payload timestamp : Json) : Checked LogEntry :=
  schema (.object [("type", kind), ("payload", payload), ("timestamp", timestamp)])

/-- An entry with all its fields. -/
def toJson (entry : LogEntry) : Json :=
  .object [("type", .text entry.kind.word), ("payload", entry.payload),
    ("timestamp", .integer entry.timestamp)]

end LogEntry

end AdaptiveQuiz
