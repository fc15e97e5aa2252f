import AdaptiveQuiz.Schema.Record

/-!
# Settings

Settings are given as values or as environment variables, under the same names; a value wins over a
variable. Overwriting registered manifests is allowed by default on a local machine and while
debugging.

## Main definitions

* `Deployment`, `Settings`, with `Settings.standard`
* `Settings.load`: settings from values and variables
* `Settings.override`: settings with some values replaced
* `Settings.logging`: how the service log is set up
-/

namespace AdaptiveQuiz

open Schema

/-- Where the service runs. -/
inductive Deployment where
  | localMachine
  | staging
  | production
deriving DecidableEq, Repr

namespace Deployment

/-- The word for a deployment. -/
def word : Deployment → String
  | .localMachine => "local"
  | .staging => "staging"
  | .production => "production"

/-- All deployments. -/
def all : List Deployment := [.localMachine, .staging, .production]

end Deployment

/-- The settings of the service. -/
structure Settings where
  deployment : Deployment
  logLevel : String
  debug : Bool
  /-- Whether a registered manifest may be overwritten. -/
  overwriteManifests : Bool
  /-- How many incorrect submissions on a stage lead to its remediation. -/
  attemptsBeforeRepair : Int
  anomalyThreshold : Int
  expectedDuration : Int
  repetitionInterval : Int
deriving DecidableEq, Repr

namespace Settings

/-- The settings that hold if nothing is given. -/
def standard : Settings :=
  ⟨.localMachine, "INFO", false, true, 1, 100, 10000, 86400000⟩

/-- The log levels. -/
def logLevels : List String := ["DEBUG", "INFO", "WARNING", "ERROR"]

/-- Settings with the default for overwriting, which depends on the other ones. -/
def resolve (deployment : Deployment) (logLevel : String) (debug : Bool)
    (overwrite : Option Bool) (attempts anomaly expected interval : Int) : Settings :=
  ⟨deployment, logLevel, debug, overwrite.getD (deployment == .localMachine || debug), attempts,
    anomaly, expected, interval⟩

/-- Settings from named values. -/
def schema (fields : Fields) : Checked Settings :=
  resolve <$> optional fields "ENVIRONMENT" (oneOf Deployment.all Deployment.word)
      standard.deployment
    <*> optional fields "LOG_LEVEL" (oneOf logLevels id) standard.logLevel
    <*> optional fields "DEBUG" boolean standard.debug
    <*> optionalNullable fields "REGISTRY_DEV_MODE" boolean
    <*> optional fields "ATTEMPTS_BEFORE_REPAIR" (atLeast 1) standard.attemptsBeforeRepair
    <*> optional fields "ANOMALY_THRESHOLD_MS" (atLeast 0) standard.anomalyThreshold
    <*> optional fields "DEFAULT_EXPECTED_DURATION_MS" (above 0) standard.expectedDuration
    <*> optional fields "SPACED_REPETITION_INTERVAL_MS" (above 0) standard.repetitionInterval

/-- Settings from values and from environment variables, of which the values win. -/
def load (values environment : Fields) : Checked Settings := schema (values ++ environment)

/-- Whether the service runs in production. -/
def isProduction (settings : Settings) : Bool := settings.deployment == .production

/-- Whether the service runs on a local machine. -/
def isLocal (settings : Settings) : Bool := settings.deployment == .localMachine

/-- Replaces one setting, unchecked. -/
def set (settings : Settings) (name : String) (value : Json) : Settings :=
  match name, value with
  | "LOG_LEVEL", .text level => { settings with logLevel := level }
  | "DEBUG", .bool debug => { settings with debug := debug }
  | "REGISTRY_DEV_MODE", .bool overwrite => { settings with overwriteManifests := overwrite }
  | "ATTEMPTS_BEFORE_REPAIR", .integer n => { settings with attemptsBeforeRepair := n }
  | "ANOMALY_THRESHOLD_MS", .integer n => { settings with anomalyThreshold := n }
  | "DEFAULT_EXPECTED_DURATION_MS", .integer n => { settings with expectedDuration := n }
  | "SPACED_REPETITION_INTERVAL_MS", .integer n => { settings with repetitionInterval := n }
  | _, _ => settings

/-- The settings with some of them replaced, unchecked. -/
def override (settings : Settings) (values : Fields) : Settings :=
  values.foldl (fun settings (name, value) => settings.set name value) settings

/-- The settings as a JSON value. -/
def toJson (settings : Settings) : Json :=
  .object [("ENVIRONMENT", .text settings.deployment.word), ("LOG_LEVEL", .text settings.logLevel),
    ("DEBUG", .bool settings.debug), ("REGISTRY_DEV_MODE", .bool settings.overwriteManifests),
    ("ATTEMPTS_BEFORE_REPAIR", .integer settings.attemptsBeforeRepair),
    ("ANOMALY_THRESHOLD_MS", .integer settings.anomalyThreshold),
    ("DEFAULT_EXPECTED_DURATION_MS", .integer settings.expectedDuration),
    ("SPACED_REPETITION_INTERVAL_MS", .integer settings.repetitionInterval)]

/-- The level and the line format of the service log. A level that is given and not empty wins over
the setting. -/
def logging (settings : Settings) (level : Option String) : String × String :=
  (match level with
    | some level => if level = "" then settings.logLevel else level
    | none => settings.logLevel,
    "%(asctime)s %(levelname)s %(name)s: %(message)s")

end Settings

end AdaptiveQuiz
