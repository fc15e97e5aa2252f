import AdaptiveQuiz.Flow.Finding

/-!
# Wiring

Unlock rules become edges: a stage that is unlocked after a correct answer on its parent is where
the free correct options of the parent lead, and a stage that is unlocked after too many attempts is
where the free incorrect ones lead. An option is free as long as it has no action. Stages claim
options in the order of the document, so an earlier rule wins over a later one. Options that nobody
claims exit or loop by their correctness.

## Main definitions

* `StageOption.markExplicit`: notes that an authored action is authored
* `Wiring`, `Wiring.attach`: the stages while rules are being attached
* `StageOption.settle`: the default action of an option
-/

namespace AdaptiveQuiz

/-! ## Authored actions -/

/-- The option, noting where its action is from if it has one and does not say so. -/
def StageOption.markExplicit (option : StageOption) : StageOption :=
  if option.next.isSome && option.nextSource.isNone then
    { option with nextSource := some .explicit }
  else option

/-- The stage with the sources of its authored actions noted. -/
def Stage.markExplicit (stage : Stage) : Stage := stage.mapOptions StageOption.markExplicit

/-! ## Unlock rules -/

namespace Trigger

/-- Whether a trigger concerns an option of its parent stage. -/
def concerns (trigger : Trigger) (parent : Stage) (option : StageOption) : Bool :=
  match trigger with
  | .correct => parent.isCorrect option
  | .attemptsExceeded => !parent.isCorrect option

/-- The source that an edge of a trigger notes. -/
def source : Trigger → EdgeSource
  | .correct => .afterCorrect
  | .attemptsExceeded => .attemptsExceeded

end Trigger

/-- The parent with the free options that the trigger concerns leading to a stage. -/
def Stage.claim (parent : Stage) (trigger : Trigger) (target : String) : Stage :=
  parent.mapOptions fun option =>
    if trigger.concerns parent option && option.next.isNone then
      { option with next := some (.goto target), nextSource := some trigger.source }
    else option

/-- The stages while rules are being attached, what was found so far, and the stages whose parent
does not exist. -/
structure Wiring where
  stages : List Stage
  findings : List Finding
  dangling : List String
deriving DecidableEq, Repr

namespace Wiring

/-- Adds a finding. -/
def report (wiring : Wiring) (finding : Finding) : Wiring :=
  { wiring with findings := wiring.findings ++ [finding] }

/-- Attaches a stage to the options of its parent. -/
def attachTo (wiring : Wiring) (target : String) (trigger : Trigger) (parent : Stage) : Wiring :=
  let candidates := parent.options.filter (trigger.concerns parent)
  if trigger = .correct && candidates.isEmpty then
    wiring.report (.noCorrectOption target parent.id)
  -- without candidates this is the case, too
  else if candidates.all (·.next.isSome) then wiring.report (.unlockShadowed target parent.id)
  else
    { wiring with stages := wiring.stages.map fun stage =>
        if stage.id = parent.id then stage.claim trigger target else stage }

/-- Attaches a stage by its rule, if it has a condition. -/
def attach (wiring : Wiring) (target : DeclarativeStage) : Wiring :=
  match target.unlock with
  | none => wiring
  | some (.always _) => wiring
  | some (.after trigger parentId) =>
    -- the parent as the rules of the stages before left it
    match stage? wiring.stages parentId with
    | some parent => wiring.attachTo target.id trigger parent
    | none =>
      { wiring.report (.missingDependency target.id parentId) with
        dangling := wiring.dangling ++ [target.id] }

/-- The stages of a document with all rules attached. -/
def ofDeclared (declared : List DeclarativeStage) (stages : List Stage) : Wiring :=
  declared.foldl attach ⟨stages, [], []⟩

end Wiring

/-! ## Defaults -/

/-- The option with an action: one that has none exits with a pass if it is correct and loops
otherwise, and an exit without outcome takes it from the correctness. -/
def StageOption.settle (correct : Bool) (option : StageOption) : StageOption :=
  match option.next with
  | none =>
    { option with
      next := some (if correct then .exit (some .pass) else .loop), nextSource := some .default }
  | some (.exit none) => { option with next := some (.exit (some (.ofCorrectness correct))) }
  | some _ => option

/-- The stage with an action on every option. -/
def Stage.settle (stage : Stage) : Stage :=
  stage.mapOptions fun option => option.settle (stage.isCorrect option)

end AdaptiveQuiz
