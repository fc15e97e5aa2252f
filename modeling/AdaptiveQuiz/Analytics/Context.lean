import AdaptiveQuiz.Schema.Record

/-!
# Learner context

What the caller tells about the learner: who it is, and the earlier attempts at the same atom of
knowledge, oldest first.

## Main definitions

* `AtomAttempt`, `SessionContext`
-/

namespace AdaptiveQuiz

open Schema

/-- An earlier attempt, with the mastery after it if that is known. -/
structure AtomAttempt where
  isCorrect : Bool
  masteryAfter : Option Binary64
deriving DecidableEq, Repr

/-- Who answers, and what came before. -/
structure SessionContext where
  userId : String
  sessionId : String
  history : List AtomAttempt
deriving DecidableEq, Repr

/-- An earlier attempt. -/
def AtomAttempt.schema : Schema AtomAttempt :=
  record "AtomAttempt" fun fields =>
    AtomAttempt.mk <$> required fields "is_correct" boolean
      <*> optionalNullable fields "mastery_after" fraction

namespace SessionContext

/-- The context of a caller who says nothing. -/
def anonymous : SessionContext := ⟨"anon", "dev-session", []⟩

/-- A learner context. -/
def schema : Schema SessionContext :=
  record "SessionContext" fun fields =>
    SessionContext.mk <$> optional fields "user_id" anyText anonymous.userId
      <*> optional fields "session_id" anyText anonymous.sessionId
      <*> optional fields "atom_history" (listOf AtomAttempt.schema) []

end SessionContext

end AdaptiveQuiz
