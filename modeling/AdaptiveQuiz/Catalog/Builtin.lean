import AdaptiveQuiz.Analytics.MultiStage
import AdaptiveQuiz.Catalog.Registry

/-!
# Built-in question types

## Main definitions

* `Manifest.multipleChoice`, `Manifest.branching`, `Manifest.declarative`
* `Registry.builtin`: a registry of the built-in types
* `Registry.shared`: the registry of the whole service, which is frozen
-/

namespace AdaptiveQuiz

namespace Manifest

/-- Single choice questions. -/
def multipleChoice : Manifest where
  id := "multiple-choice"
  version := 1
  name := "Multiple Choice (Standard)"
  description := "Single-select multiple choice question with text or image options."
  documentKind := .multipleChoice
  binding := .singleChoice
  analytics := Analytics.singleChoice
  id_ne_empty := by decide
  one_le_version := by decide

/-- Multi-stage questions with explicit actions. -/
def branching : Manifest where
  id := "mcq-branching"
  version := 1
  name := "Adaptive Branching MCQ"
  description := "Multi-stage question with conditional logic, remediation loops, and scaffolding."
  documentKind := .branching
  binding := .branching
  analytics := Analytics.multiStage
  id_ne_empty := by decide
  one_le_version := by decide

/-- Multi-stage questions with unlock rules. -/
def declarative : Manifest where
  id := "mcq-declarative"
  version := 1
  name := "Declarative Multi-Stage MCQ"
  description := "Multi-stage question authored with unlock rules; compiled into a branching flow "
    ++ "at load time."
  documentKind := .declarative
  binding := .declarative
  analytics := Analytics.multiStage
  id_ne_empty := by decide
  one_le_version := by decide

/-- The built-in manifests. -/
def builtin : List Manifest := [multipleChoice, branching, declarative]

end Manifest

namespace Registry

/-- Registers the built-in manifests. -/
def registerBuiltin (registry : Registry) : Registry × List Notice × Except RegistryError Unit :=
  registry.registerAll Manifest.builtin

/-- A registry of the built-in manifests, and what was noticed while it was made. -/
def builtin (overwrites : Bool) : Registry × List Notice :=
  let (registry, notices, _) := (empty overwrites).registerBuiltin
  (registry, notices)

/-- The registry of the whole service. -/
def shared (settings : Settings) : Registry × List Notice :=
  let (registry, notices) := builtin settings.overwriteManifests
  (registry.freeze, notices)

end Registry

end AdaptiveQuiz
