import Mathlib.Data.List.Sort
import Mathlib.Data.String.Basic
import TokenBank.Backends.Resolver
import TokenBank.Models.Base
import TokenBank.Models.CapacityProfile
import TokenBank.Models.RoutePlan
import TokenBank.Router.PrivacyPreflight

/-!
# Profiles of tasks and capacities

What scoring compares: the profile of a task, from the defaults of its type, and for every
candidate the profile of the capacity behind it, from the manifest of its backend.
-/

namespace TokenBank

/-- Texts without repetitions, in order. -/
def sortedSet (texts : List String) : List String :=
  texts.dedup.insertionSort (fun left right => left ≤ right)

namespace CapacityProfiles

/-- An identifier with plain characters only. -/
def safeId (value : String) : String :=
  String.ofList (value.toList.map (fun character =>
    if character = ':' ∨ character = '/' ∨ character = '.' then '_' else character))

/-- The capabilities that a backend class implies. -/
def classCapabilities : BackendClass → List String
  | .localTool => ["deterministic_local", "low_cost"]
  | .localScript => ["deterministic_local", "low_cost"]
  | .browserFetch => ["browser_fetch", "data_extraction"]
  | .apiModelGateway => ["structured_output", "fast_reasoning"]
  | .primaryModelGateway => ["structured_output", "fast_reasoning"]
  | .localModel => []

/-- The capabilities that a supported task type implies. -/
def taskCapabilities : String → List String
  | "claim_extraction" => ["strong_reasoning", "structured_output", "data_extraction"]
  | "topic_classification" => ["structured_output", "fast_reasoning"]
  | "url_check" => ["browser_fetch", "deterministic_local"]
  | "dedup" => ["deterministic_local", "data_extraction"]
  | "webpage_extraction" => ["browser_fetch", "data_extraction", "structured_output"]
  | _ => []

/-- The capabilities of a backend, for a candidate of a class. -/
def backendCapabilities (backend : BackendManifest) (candidate : RouteCandidate) : List String :=
  let capabilities := classCapabilities candidate.backendClass ++
    backend.supportedTaskTypes.flatMap taskCapabilities
  sortedSet (if capabilities.isEmpty then ["private_data_safe"] else capabilities)

/-- How strong the model behind a gateway is. -/
def modelTier (backend : BackendManifest) : ModelTier :=
  if backend.backendClass = .primaryModelGateway then .frontier
  else if backend.supportedTaskTypes.contains "claim_extraction" then .strong
  else .standard

/-- The model behind a backend, if it is a gateway. -/
def modelProfile (backend : BackendManifest) : Option ModelProfile :=
  if backend.backendClass.apiGateway then some ⟨backend.backendId, modelTier backend⟩ else none

/-- Whether a backend of some health is available. -/
def availability : HealthStatus → AvailabilityState
  | .healthy => .available
  | .degraded => .degraded
  | .unhealthy => .unavailable
  | .unknown => .unknown

/-- The task types that a backend is verified for. -/
def verifiedFor (backend : BackendManifest) : Option String → List VerifiedForTask
  | none => []
  | some verifierRecipeId => backend.supportedTaskTypes.map (fun taskType =>
      ⟨taskType, if verifierRecipeId = "" then "none" else verifierRecipeId⟩)

/-- The profile of the capacity behind a candidate. -/
def capacityProfileForCandidate (registry : BackendRegistry) (candidate : RouteCandidate) :
    Except Raised CapacityProfile := do
  let backend ← registry.get candidate.backendId
  return {
    capacityProfileId := "cp_" ++ safeId candidate.backendId
    capacityNodeId := candidate.capacityNodeId
    backendId := candidate.backendId
    backendClass := candidate.backendClass
    ownershipScope := .userLocal
    executionBoundary := backend.executionLocation
    availabilityState := (backend.health.map (fun health => availability health.status)).getD .available
    modelProfile := modelProfile backend
    capabilities := (backendCapabilities backend candidate).map (fun capability =>
      (capability, ⟨4 / 5, Share.fourFifths_bounded⟩))
    latencyP50Ms := backend.health.bind BackendHealth.latencyMs
    verifiedFor := verifiedFor backend candidate.verifierRecipeId }

/-- The profiles of the capacities behind candidates. -/
def capacityProfilesForCandidates (registry : BackendRegistry) (candidates : List RouteCandidate) :
    Except Raised (List CapacityProfile) :=
  candidates.mapM (capacityProfileForCandidate registry)

end CapacityProfiles

namespace TaskProfiler

/-- How large an input is. -/
def contextSize (runtime : PythonRuntime) (inlineInput : JsonObject) : ContextSize :=
  let textSize := (runtime.str (.obj inlineInput)).length
  if textSize < 1000 then .small else if textSize < 20000 then .medium else .large

/-- The capabilities that tasks of a type need, of those that the pack knows. -/
def requiredCapabilities (pack : LoadedRoutebookV1) (defaults : TaskTypeDefaults) :
    Except Raised (List RequiredCapability) :=
  (defaults.requiredCapabilities.filter pack.capabilityTags.contains).mapM (fun capability =>
    (BaseModel.nonEmptyStr capability).map (fun capability => ⟨capability, { value := 3 / 4 }⟩))

/-- The classes of tools that a plan's candidates need. -/
def requiresTools (routePlan : RoutePlan) : List String :=
  sortedSet ((routePlan.candidates.filter (fun candidate => !candidate.backendClass.apiGateway)).map
    (fun candidate => candidate.backendClass.text))

/-- The difficulty of tasks of a type. -/
def difficulty (defaults : TaskTypeDefaults) : Except Raised TaskDifficulty :=
  match TaskDifficulty.ofText defaults.difficulty with
  | some difficulty => .ok difficulty
  | none => .error .validationError

/-- The profile of a work unit. -/
def profile (runtime : PythonRuntime) (routebook : LoadedRoutebook) (pack : LoadedRoutebookV1)
    (workUnit : WorkUnit) (routePlan : RoutePlan) : Except Raised TaskProfile := do
  let defaults := pack.defaults workUnit.taskType
  let entry ← routebook.taskTypeEntry workUnit.taskType
  let routebookId ← BaseModel.nonEmptyStr pack.routebookId
  let routebookVersion ← BaseModel.nonEmptyStr pack.version
  let taskFamily ← BaseModel.nonEmptyStr defaults.taskFamily
  let difficulty ← difficulty defaults
  let required ← requiredCapabilities pack defaults
  let successCriteria ← BaseModel.nonEmptyStrs defaults.successCriteria
  return {
    taskProfileId := "tp_" ++ workUnit.workUnitId ++ "_" ++ workUnit.taskType
    workUnitId := workUnit.workUnitId
    routebookId := routebookId
    routebookVersion := routebookVersion
    taskFamily := taskFamily
    taskType := workUnit.taskType
    difficulty := difficulty
    riskLevel := routePlan.taskLevel
    privacyLevel := workUnit.privacyLevel
    contextSize := contextSize runtime workUnit.inlineInput
    latencyPreference := .normal
    costPreference := .balanced
    requiredCapabilities := required
    requiresTools := requiresTools routePlan
    requiresVerifierRecipeId := decide (routePlan.verifierRecipeId ≠ "")
    successCriteria := successCriteria
    profileReasonCodes := ["routebook_task_type:" ++ workUnit.taskType,
      "default_task_level:" ++ entry.defaultTaskLevel, "deterministic_wp_rb1_profile"] }

end TaskProfiler

end TokenBank
