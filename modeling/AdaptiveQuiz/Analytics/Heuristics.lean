import AdaptiveQuiz.Analytics.Context
import AdaptiveQuiz.Analytics.Failure
import AdaptiveQuiz.Analytics.Record
import AdaptiveQuiz.Journal.Entry
import AdaptiveQuiz.Numeric.Arithmetic

/-!
# Heuristics

The measures that analytics records are made of. All of them are functions of the journal, the
earlier attempts and the settings.

## Main definitions

* looking into a journal: `firstOf`, `lastOf`, `countOf`, `terminalEvent`
* times: `timeSpent`, `speedRating`, `dataQuality`
* behaviour: `distractionScore`, `focusConsistency`, `cognitiveLoad`
* earlier attempts: `wasFailingRecently`, `correctnessPattern`, `recoveryVelocity`
* mastery: `masteryBefore`, `masteryAfter`, `confidenceGap`
* what to do next: `spaceRepetitionDue`, `suggestedIntervention`
-/

namespace AdaptiveQuiz.Analytics

/-! ## Looking into a journal -/

/-- The first entry of one of the given kinds. -/
def firstOf (log : List LogEntry) (kinds : List EventKind) : Option LogEntry :=
  log.find? fun entry => kinds.contains entry.kind

/-- The last entry of one of the given kinds. -/
def lastOf (log : List LogEntry) (kinds : List EventKind) : Option LogEntry :=
  firstOf log.reverse kinds

/-- How many entries are of one of the given kinds. -/
def countOf (log : List LogEntry) (kinds : List EventKind) : Nat :=
  log.countP fun entry => kinds.contains entry.kind

/-- The entry that ended the session. -/
def terminalEvent (log : List LogEntry) : Except AnalyticsFailure LogEntry :=
  match lastOf log [.submit] with
  | some entry => .ok entry
  | none => .error .noTerminalEvent

/-! ## Times -/

/-- The milliseconds from the first mount or view to the end, not less than zero. -/
def timeSpent (log : List LogEntry) : Except AnalyticsFailure Int :=
  (terminalEvent log).map fun terminal =>
    let start := (firstOf log [.mount, .view]).getD terminal
    max 0 (terminal.timestamp - start.timestamp)

/-- The fraction of the expected duration below which an attempt is rushed. -/
def rushedBelow : Binary64 := .ofDecimal false 3 (-1)

/-- The fraction of the expected duration below which an attempt is fast. -/
def fastBelow : Binary64 := .ofDecimal false 7 (-1)

/-- The fraction of the expected duration up to which an attempt is steady. -/
def steadyUpTo : Binary64 := .ofDecimal false 13 (-1)

/-- How a duration compares with the expected one. -/
def speedRating (elapsed expected : Int) : Except AnalyticsFailure SpeedRating :=
  (Binary64.ofInt? expected).elim (.error .durationTooLarge) fun expected =>
    .ok (if Binary64.intLess elapsed (expected.mul rushedBelow) then .rushed
      else if Binary64.intLess elapsed (expected.mul fastBelow) then .fast
      else if Binary64.intAtMost elapsed (expected.mul steadyUpTo) then .steady
      else .slow)

/-- A session below the threshold is too short to be trusted. -/
def dataQuality (elapsed threshold : Int) : DataQuality :=
  if elapsed < threshold then .anomaly else .valid

/-! ## Behaviour -/

/-- Twenty points for every loss of focus, up to a hundred. -/
def distractionScore (log : List LogEntry) : Int := min 100 (20 * (countOf log [.blur] : Int))

/-- What a loss of focus costs. -/
def focusPenalty : Binary64 := .ofDecimal false 1 (-1)

/-- One, less a tenth for every loss of focus, not less than zero. -/
def focusConsistency (log : List LogEntry) : Binary64 :=
  Binary64.max .zero (Binary64.one.sub (focusPenalty.mul (.ofNat (countOf log [.blur]))))

/-- The load grows with changes of the answer, with remediation, and with time beyond twice the
expected one. -/
def cognitiveLoad (answerChanges repairVisits elapsed expected : Int) : CognitiveLoad :=
  if answerChanges > 4 ∨ repairVisits > 1 ∨ elapsed > expected * 2 then .high
  else if answerChanges > 2 ∨ repairVisits ≥ 1 then .medium
  else .low

/-! ## Earlier attempts -/

/-- How many attempts count as recent. -/
def recentWindow : Nat := 3

/-- The recent attempts. -/
def recent (history : List AtomAttempt) : List AtomAttempt :=
  history.drop (history.length - recentWindow)

/-- Whether one of the recent attempts failed. -/
def wasFailingRecently (history : List AtomAttempt) : Bool :=
  (recent history).any fun attempt => !attempt.isCorrect

/-- How often neighbouring results differ. -/
def flips : List Bool → Nat
  | a :: b :: rest => (if a = b then 0 else 1) + flips (b :: rest)
  | _ => 0

/-- How the recent results go, this one included, if there are enough of them. -/
def correctnessPattern (history : List AtomAttempt) (isCorrect : Bool) :
    Option CorrectnessPattern :=
  let results := (recent history).map AtomAttempt.isCorrect ++ [isCorrect]
  if results.length < recentWindow then none
  else if results.all id || !results.any id then some .stable
  else if flips results = results.length - 1 then some .oscillating
  else if flips results = 1 then some (if isCorrect then .improving else .declining)
  else some .random

/-- The score of a result. -/
def score (isCorrect : Bool) : Binary64 := if isCorrect then .one else .zero

/-- How far the result is above the mean of the first attempts, for each attempt made. -/
def recoveryVelocity (history : List AtomAttempt) (isCorrect : Bool) : Option Binary64 :=
  if history.isEmpty then none
  else
    let baseline := history.take recentWindow
    let successes := baseline.countP AtomAttempt.isCorrect
    let mean := (Binary64.ofNat successes).div (.ofNat baseline.length)
    some ((((score isCorrect).sub mean).div (.ofNat (history.length + 1))).roundPlaces 4)

/-! ## Mastery -/

/-- The mastery of a learner of whom nothing is known. -/
def defaultMastery : Binary64 := .ofDecimal false 5 (-1)

/-- The mastery after the last attempt for which it is known. -/
def masteryBefore (history : List AtomAttempt) : Binary64 :=
  (history.reverse.findSome? AtomAttempt.masteryAfter).getD defaultMastery

/-- The mastery after this result, within zero and one. -/
def masteryAfter (before : Binary64) (isCorrect : Bool) (gain loss : Binary64) : Binary64 :=
  let value := if isCorrect then before.add gain else before.sub loss
  (Binary64.min .one (Binary64.max .zero value)).roundPlaces 4

/-- The mastery before, less the score: positive for a surprising failure. -/
def confidenceGap (before : Binary64) (isCorrect : Bool) : Binary64 :=
  (before.sub (score isCorrect)).roundPlaces 4

/-! ## What to do next -/

/-- When to repeat: after the interval, or after half of it if the answer was wrong. -/
def spaceRepetitionDue (timestamp : Int) (isCorrect : Bool) (interval : Int) : Int :=
  timestamp + if isCorrect then interval else interval / 2

/-- What to do for the learner. -/
def suggestedIntervention (isCorrect : Bool) (attemptNumber : Int) (failingRecently : Bool) :
    Intervention :=
  if isCorrect then .none
  else if failingRecently && attemptNumber > 3 then .intervene
  else if attemptNumber > 2 then .scaffold
  else .hint

end AdaptiveQuiz.Analytics
