/-!
# Notices

The lines that the service writes into its own log.

## Main definitions

* `Notice`, with `Notice.level` and `Notice.message`
-/

namespace AdaptiveQuiz

/-- A line of the service log. -/
inductive Notice where
  /-- A manifest was registered under a key. -/
  | registered (key : String)
  /-- A manifest was registered in the place of another one. -/
  | overwritten (key : String)
  /-- A question was completed in preview mode. -/
  | previewed (key : String)
  /-- A question was completed, but its analytics failed. -/
  | analyticsFailed (key reason : String)
  /-- A session was left before its question was completed. -/
  | abandoned (session stage : String)
  /-- A document with unlock rules was converted. -/
  | converted (item : Option String)
deriving DecidableEq, Repr

namespace Notice

/-- The level of a notice. -/
def level : Notice → String
  | .overwritten _ => "WARNING"
  | .analyticsFailed _ _ => "ERROR"
  | .registered _ | .previewed _ | .abandoned _ _ | .converted _ => "INFO"

/-- The name of an item, which may have none. -/
def itemName (item : Option String) : String :=
  match item with
  | some name => if name = "" then "<unnamed>" else name
  | none => "<unnamed>"

/-- A notice in words. -/
def message : Notice → String
  | .registered key => "Registered question type: " ++ key
  | .overwritten key => "Registry: Overwriting existing manifest for " ++ key
  | .previewed key => "Preview mode: skipping analytics for " ++ key
  | .analyticsFailed key reason => "Analytics computation failed for " ++ key ++ ": " ++ reason
  | .abandoned session stage =>
    "Session " ++ session ++ " abandoned on stage '" ++ stage ++ "'"
  | .converted item => "Compiled declarative item " ++ itemName item ++ " to mcq-branching"

end Notice

end AdaptiveQuiz
