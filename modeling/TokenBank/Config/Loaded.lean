import TokenBank.Core.Doubles
import TokenBank.Models.Backend

/-!
# Loaded configuration and routebooks

The documents a control plane loads from its directories, as far as routing reads them:
the configuration with its registries and its backend policy, the routebook with its
rules, and the routebook pack that scoring needs. Members that a document may leave out
are absent here or have the value that is read in their place.
-/

namespace TokenBank

/-- The loaded configuration. The documents of the pricing tables are only parsed. -/
structure LoadedConfig where
  backends : List BackendManifest
  workerManifests : List WorkerManifest
  allowedBackendIds : List String := []
  allowedBackendClasses : List String := []
  forbiddenBackendClasses : List String := []
  pricing : List JsonObject := []

/-- A rule that makes a candidate for the work units of a task type. -/
structure CandidateRule where
  ruleId : String
  taskType : String
  backendClass : Option String := none
  backendId : Option String := none
  workerId : Option String := none
  priority : Int := 1

/-- What a routebook says about a task type. -/
structure TaskTypeEntry where
  taskType : String
  defaultTaskLevel : String

/-- What a routebook says about a task level. -/
structure TaskLevelEntry where
  requiresVerifierRecipeId : Option Bool := none
  riskLevel : String := "low"

/-- What no route may contain. -/
structure ForbiddenRoutes where
  forbiddenBackendClasses : List String := []
  forbiddenFieldFragments : List String := []
  forbiddenPathFragments : List String := []
  forbiddenBackendIdFragments : List String := []

/-- The loaded routebook. -/
structure LoadedRoutebook where
  taskTypes : List TaskTypeEntry
  taskLevels : List (String × TaskLevelEntry)
  candidateRules : List CandidateRule
  verifierMapping : List (String × String)
  policyHints : List (String × List String) := []
  forbiddenRoutes : ForbiddenRoutes := {}

/-- The entry of a task type. -/
def LoadedRoutebook.taskTypeEntry (routebook : LoadedRoutebook) (taskType : String) :
    Except Raised TaskTypeEntry :=
  match routebook.taskTypes.find? (fun entry => entry.taskType = taskType) with
  | some entry => .ok entry
  | none => .error (.keyError ("unknown task_type: " ++ taskType))

/-- A task level needs a verifier. All levels but the lowest do unless the routebook says
otherwise. -/
def LoadedRoutebook.requiresVerifier (routebook : LoadedRoutebook) (level : TaskLevel) : Bool :=
  ((routebook.taskLevels.lookup level.text).bind TaskLevelEntry.requiresVerifierRecipeId).getD
    (level != .l0)

/-- What a routebook pack assumes about the work units of a task type. -/
structure TaskTypeDefaults where
  taskFamily : String := "simple_transform"
  difficulty : String := "medium"
  requiredCapabilities : List String := []
  successCriteria : List String := []

/-- The loaded routebook pack. Its identifiers are not empty, and it has weights, none of which is
negative. A weight may be infinite or no number. -/
structure LoadedRoutebookV1 where
  routebookId : String
  version : String
  capabilityTags : List String
  taskTypeDefaults : List (String × TaskTypeDefaults) := []
  scorerId : String
  scorerVersion : String
  scoreWeights : List (String × PythonNumber)
  identified : routebookId ≠ "" ∧ version ≠ "" ∧ scorerId ≠ "" ∧ scorerVersion ≠ ""
  weighted : scoreWeights ≠ []
  nonNegative : ∀ weight ∈ scoreWeights, weight.2.negative = false

/-- The defaults of a task type. A type the pack does not know has those of no type. -/
def LoadedRoutebookV1.defaults (pack : LoadedRoutebookV1) (taskType : String) : TaskTypeDefaults :=
  (pack.taskTypeDefaults.lookup taskType).getD {}

end TokenBank
