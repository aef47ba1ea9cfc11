import TokenBank.Capacity.Bootstrap
import TokenBank.Core.Collections
import TokenBank.Policy.Checks

/-!
# Validation of the configuration

The documents of a configuration are checked against each other before the control plane
starts: the routebook and the policy against the registered backends, the declared capacity
nodes against the manifests they are made of, and all keys against those that have no place in
a document. The checks read the documents as they are written: ids are compared without being
trimmed. What a check finds is an issue; a document of another shape raises an exception.
-/

namespace TokenBank

open Canonical Validation

/-- What validation finds. -/
structure ValidationIssue where
  code : String
  message : String
deriving DecidableEq

/-- The outcome of validation. -/
structure ValidationResult where
  ok : Bool
  issues : List ValidationIssue
deriving DecidableEq

/-- What validation leaves to the runtime: the text of the exception that an entry's manifest
raises, and the order in which a set of texts is gone through. -/
structure ValidatorRuntime extends PythonRuntime where
  refusal : Json → String
  fragments : List String
  all_fragments : fragments.Perm Policy.forbiddenExtensionKeyFragments

namespace ConfigValidator

/-- What some checks find, one after another. -/
def gathered {α : Type} (items : List α) (check : α → Except Raised (List ValidationIssue)) :
    Except Raised (List ValidationIssue) := do
  let found ← items.mapM check
  return found.flatten

/-- An issue under a condition. -/
def issueIf (condition : Bool) (code message : String) : List ValidationIssue :=
  if condition then [⟨code, message⟩] else []

section Documents

variable (config : ConfigDocuments)

/-- The entries of the registered backends. -/
def backendRegistry : Except Raised (List Json) :=
  Bootstrap.entries config.backendRegistry "backend_registry" "backends"

/-- The backend policy. -/
def backendPolicy : Except Raised JsonObject :=
  (Json.getOr config.backendPolicy "backend_policy" (.obj [])).mapped

/-- The settings of the runtime. -/
def runtimeSettings : Except Raised JsonObject :=
  (Json.getOr config.runtime "runtime" (.obj [])).mapped

/-- The routebook. -/
def routebook : Except Raised JsonObject :=
  (Json.getOr config.runtime "routebook" (.obj [])).mapped

/-- The verifier recipes. -/
def verifierRecipes : Except Raised (List Json) :=
  (Json.getOr config.runtime "verifier_recipes" (.arr [])).iterated

/-- The capacity registry. -/
def capacityRegistry : Except Raised JsonObject :=
  (Json.getOr config.capacityRegistry "capacity_registry" (.obj [])).mapped

variable (runtime : ValidatorRuntime)

/-- The ids of the priced backends. -/
def pricingBackendIds : Except Raised (List String) := do
  let ids ← config.pricing.mapM (fun document => do
    let pricing ← (Json.getOr document "pricing" (.obj [])).asked
    let prices ← (Json.getOr pricing "backend_prices" (.arr [])).iterated
    prices.mapM (fun price => do
      let fields ← price.asked
      return runtime.str (Json.getOr fields "backend_id" (.str ""))))
  return ids.flatten

/-- The texts of the members of entries under a key. -/
def textsUnder (key : String) (entries : List Json) : Except Raised (List String) :=
  entries.mapM (fun entry => do
    let fields ← entry.asked
    return runtime.str (Json.get fields key))

/-- Entries by the texts of their members under a key. Of two with one text the later counts. -/
def entriesBy (key : String) (entries : List Json) : Except Raised JsonObject := do
  let texts ← textsUnder runtime key entries
  return objectOf (texts.zip entries)

end Documents

/-! ## The runtime mode -/

/-- The runtime modes. -/
def runtimeModes : List String := ["demo", "internal_secure", "alpha"]

/-- Check the runtime mode. -/
def validateRuntimeMode (runtime : ValidatorRuntime) (config : ConfigDocuments) :
    Except Raised (List ValidationIssue) := do
  let settings ← runtimeSettings config
  let runtimeMode := Json.get settings "runtime_mode"
  return issueIf (!Json.amongTexts runtimeModes runtimeMode) "runtime_mode.invalid"
    ("runtime_mode must be demo, internal_secure, or alpha: " ++ runtime.str runtimeMode)

/-! ## The routebook and the backend registry -/

section Backends

variable (library : CapacityLibrary) (now : Reading library) (runtime : ValidatorRuntime)

/-- The manifest that is made of an entry to be checked. Its health is validated first. -/
def backendManifestForValidation (payload : JsonObject) : Except Raised BackendManifest := do
  let backendId := Json.str (runtime.str (← Json.item payload "backend_id"))
  let backendClass ← Json.item payload "backend_class"
  let capacityNodeId ← Json.item payload "capacity_node_id"
  let executionLocation ← Json.item payload "execution_location"
  let manifestHash ← Json.item payload "manifest_hash"
  let health := Json.obj [("backend_id", backendId),
    ("status", Json.getOr payload "health_status" (.str "healthy"))]
  let _ ← Capacity.validatedOr (BackendHealth.modelValidate (library.at now.1) health)
  let cost ← (Json.getOr payload "cost_model" (.obj [])).asked
  let estimatedCostMicros ← runtime.int (Json.getOr cost "estimated_cost_micros" (.int 0))
  Capacity.validatedOr (BackendManifest.modelValidate (library.at now.1) (.obj [
    ("backend_id", backendId), ("backend_class", backendClass),
    ("capacity_node_id", capacityNodeId),
    ("display_name", Json.getOr payload "display_name" backendId),
    ("version", Json.getOr payload "version" (.str "v0")),
    ("supported_task_types", Json.getOr payload "supported_task_types" (.texts [])),
    ("allowed_privacy_levels", Json.getOr payload "allowed_privacy_levels" (.texts ["private"])),
    ("execution_location", executionLocation), ("manifest_hash", manifestHash),
    ("health", health),
    ("cost_model", .obj [("estimated_cost_micros", .int estimatedCostMicros),
      ("cost_source", Json.getOr cost "cost_source" (.str "policy_default"))]),
    ("policy_constraints", Json.getOr payload "policy_constraints" (.obj []))]))

/-- Check where a backend executes. An exception of a value is an issue. -/
def validateBackendLocation (payload : JsonObject) : Except Raised (List ValidationIssue) :=
  let issue (text : String) : ValidationIssue :=
    ⟨"backend_registry.execution_location_invalid",
      "backend " ++ runtime.str (Json.get payload "backend_id") ++
        " execution_location invalid: " ++ text⟩
  match (do
    let manifest ← backendManifestForValidation library now runtime payload
    Capacity.validateBackendExecutionLocation manifest) with
  | .ok () => .ok []
  | .error (.valueError message) => .ok [issue message]
  | .error .validationError => .ok [issue (runtime.refusal (.obj payload))]
  | .error raised => .error raised

/-- Check a rule of the routebook. -/
def validateCandidateRule (backendIds backendClasses verifierRecipeIds : List String)
    (forbiddenBackendClasses : List Json) (rule : Json) : Except Raised (List ValidationIssue) := do
  let fields ← rule.asked
  let opening := "candidate rule " ++ runtime.str (Json.getOr fields "rule_id" (.str "<unknown>"))
  let backendClass := runtime.str (Json.get fields "backend_class")
  let backendId := runtime.str (Json.get fields "backend_id")
  let verifierRecipeId := runtime.str (Json.get fields "verifier_recipe_id")
  return issueIf (!backendClasses.contains backendClass) "routebook.rule_backend_class_missing"
      (opening ++ " backend_class is not registered: " ++ backendClass) ++
    issueIf (Json.among forbiddenBackendClasses (.str backendClass))
      "routebook.forbidden_backend_class"
      (opening ++ " uses forbidden backend_class: " ++ backendClass) ++
    issueIf (!backendIds.contains backendId) "routebook.rule_backend_id_missing"
      (opening ++ " backend_id is not registered: " ++ backendId) ++
    issueIf (!verifierRecipeIds.contains verifierRecipeId) "routebook.verifier_recipe_missing"
      (opening ++ " verifier_recipe_id is missing: " ++ verifierRecipeId)

/-- Check a backend against the policy and the prices. -/
def validateBackend (allowedBackendIds apiBackendClasses : List Json)
    (pricingBackendIds : List String) (backend : Json) : Except Raised (List ValidationIssue) := do
  let fields ← backend.asked
  let backendId := runtime.str (Json.get fields "backend_id")
  let backendClass := runtime.str (Json.get fields "backend_class")
  let location ← validateBackendLocation library now runtime fields
  return location ++
    issueIf (!allowedBackendIds.isEmpty && !Json.among allowedBackendIds (.str backendId))
      "backend_policy.backend_id_not_allowed"
      ("backend_registry backend_id not allowed by backend_policy: " ++ backendId) ++
    issueIf (Json.among apiBackendClasses (.str backendClass) &&
        !pricingBackendIds.contains backendId) "pricing.api_backend_missing"
      ("pricing table must cover API backend: " ++ backendId)

/-- Check the task type of a verifier recipe. -/
def validateRecipe (taskTypes : List Json) (recipe : Json) :
    Except Raised (List ValidationIssue) := do
  let fields ← recipe.asked
  let taskType ← (Json.get fields "task_type").hashed
  return issueIf (!Json.among taskTypes taskType) "verifier_recipe.task_type_unknown"
    ("verifier recipe " ++ runtime.str (Json.get fields "verifier_recipe_id") ++
      " maps to unknown task_type: " ++ runtime.str taskType)

/-- Check the routebook, the backends, the policy and the verifier recipes against each other. -/
def validateRoutebookAndBackendRegistry (config : ConfigDocuments) :
    Except Raised (List ValidationIssue) := do
  let backends ← backendRegistry config
  let backendIds ← textsUnder runtime "backend_id" backends
  let backendClasses ← textsUnder runtime "backend_class" backends
  let policy ← backendPolicy config
  let allowedBackendIds ← (Json.getOr policy "allowed_backend_ids" (.arr [])).asSet
  let forbiddenBackendClasses ← (Json.getOr policy "forbidden_backend_classes" (.arr [])).asSet
  let apiBackendClasses ← (Json.getOr policy "api_backend_classes" (.arr [])).asSet
  let routebook ← routebook config
  let routebookClasses ← (Json.getOr routebook "backend_classes" (.arr [])).asSet
  let candidateRules ← (Json.getOr routebook "candidate_rules" (.arr [])).iterated
  let recipes ← verifierRecipes config
  let verifierRecipeIds ← textsUnder runtime "verifier_recipe_id" recipes
  let taskTypes ← (Json.getOr routebook "task_types" (.arr [])).asSet
  let priced ← pricingBackendIds config runtime
  let missingRoutebookClasses ← Json.sorted
    (routebookClasses.filter (fun backendClass => !Json.amongTexts backendClasses backendClass))
  let ofRules ← gathered candidateRules (validateCandidateRule runtime backendIds backendClasses
    verifierRecipeIds forbiddenBackendClasses)
  let ofBackends ← gathered backends
    (validateBackend library now runtime allowedBackendIds apiBackendClasses priced)
  let allowed ← Json.sorted allowedBackendIds
  let ofRecipes ← gathered recipes (validateRecipe runtime taskTypes)
  return issueIf (!missingRoutebookClasses.isEmpty) "routebook.backend_class_missing"
      ("routebook backend_classes missing from backend_registry: " ++
        runtime.str (.arr missingRoutebookClasses)) ++ ofRules ++ ofBackends ++
    allowed.flatMap (fun allowedBackendId =>
      issueIf (!Json.amongTexts backendIds allowedBackendId) "backend_policy.allowed_backend_missing"
        ("allowed_backend_id missing from backend_registry: " ++ runtime.str allowedBackendId)) ++
    ofRecipes

end Backends

/-! ## The capacity registry -/

section Capacity

variable (runtime : ValidatorRuntime)

/-- Check a backend that a worker names. -/
def validateNamedBackend (backendById : JsonObject) (workerId : String) (backendId : Json) :
    Except Raised (List ValidationIssue) := do
  let backendId ← backendId.hashed
  match backendId.textual.filter (Json.has backendById) with
  | none => return [⟨"worker_manifest.backend_id_missing",
      "worker " ++ workerId ++ " references unknown backend_id: " ++ runtime.str backendId⟩]
  | some known =>
    let fields ← (Json.get backendById known).asked
    let backendClass := runtime.str (Json.get fields "backend_class")
    return issueIf ((backendClass = "api_model_gateway" || backendClass = "primary_model_gateway") &&
        workerId != controlPlaneGatewayWorkerId) "worker_manifest.api_backend_direct_denied"
      ("worker direct API model backend path is denied: " ++ workerId ++ " -> " ++ known)

/-- Check the backends that a worker names. -/
def validateWorker (backendById : JsonObject) (worker : Json) :
    Except Raised (List ValidationIssue) := do
  let fields ← worker.asked
  let backendIds ← (Json.getOr fields "backend_ids" (.arr [])).iterated
  gathered backendIds (validateNamedBackend runtime backendById
    (runtime.str (Json.get fields "worker_id")))

/-- Check a declared node against the manifest it is made of. -/
def validateSource (sources : JsonObject) (sourceId : String) (node : JsonObject)
    (missing drift : ValidationIssue) : Except Raised (List ValidationIssue) :=
  if Json.has sources sourceId then do
    let fields ← (Json.get sources sourceId).asked
    return if Json.same (Json.get node "manifest_hash") (Json.get fields "manifest_hash") then []
      else [drift]
  else .ok [missing]

/-- Check a declared node. -/
def validateCapacityNode (backendById workersById : JsonObject) (node : Json) :
    Except Raised (List ValidationIssue) := do
  let fields ← node.asked
  let source := Json.get fields "source"
  if source.textual = some "worker_manifest" then
    let workerId := runtime.str (Json.get fields "worker_id")
    validateSource workersById workerId fields
      ⟨"capacity_node.worker_missing",
        "capacity node references unknown worker_id: " ++ workerId⟩
      ⟨"capacity_node.worker_manifest_hash_mismatch",
        "capacity node worker manifest_hash drift: " ++ workerId⟩
  else if source.textual = some "backend_manifest" then
    let backendId := runtime.str (Json.get fields "backend_id")
    validateSource backendById backendId fields
      ⟨"capacity_node.backend_missing",
        "capacity node references unknown backend_id: " ++ backendId⟩
      ⟨"capacity_node.backend_manifest_hash_mismatch",
        "capacity node backend manifest_hash drift: " ++ backendId⟩
  else return [⟨"capacity_node.source_unknown",
    "capacity node source must be worker_manifest or backend_manifest: " ++ runtime.str source⟩]

/-- The texts of a set, in order. -/
def sortedTexts (texts : List String) : List String :=
  texts.dedup.insertionSort (fun left right => left ≤ right)

/-- Check the declared nodes and the workers' backends. -/
def validateCapacityRegistry (config : ConfigDocuments) :
    Except Raised (List ValidationIssue) := do
  let backends ← backendRegistry config
  let backendById ← entriesBy runtime "backend_id" backends
  let capacity ← capacityRegistry config
  let workerManifests ← (Json.getOr capacity "worker_manifests" (.arr [])).iterated
  let workersById ← entriesBy runtime "worker_id" workerManifests
  let backendNodeIds ← textsUnder runtime "capacity_node_id" backends
  let expectedNodeIds := workersById.map (fun worker => "capnode:worker:" ++ worker.1) ++
    backendNodeIds
  let capacityNodes ← (Json.getOr capacity "capacity_nodes" (.arr [])).iterated
  let declaredNodeIds ← textsUnder runtime "capacity_node_id" capacityNodes
  let missingNodes := sortedTexts (expectedNodeIds.filter (fun nodeId =>
    !declaredNodeIds.contains nodeId))
  let extraNodes := sortedTexts (declaredNodeIds.filter (fun nodeId =>
    !expectedNodeIds.contains nodeId))
  let ofWorkers ← gathered workerManifests (validateWorker runtime backendById)
  let ofNodes ← gathered capacityNodes (validateCapacityNode runtime backendById workersById)
  return issueIf (!missingNodes.isEmpty) "capacity_node.projection_missing"
      ("capacity registry is missing projected capacity nodes: " ++
        runtime.str (.texts missingNodes)) ++
    issueIf (!extraNodes.isEmpty) "capacity_node.projection_extra"
      ("capacity registry declares nodes outside worker/backend manifests: " ++
        runtime.str (.texts extraNodes)) ++ ofWorkers ++ ofNodes

end Capacity

/-! ## The keys of the documents -/

section Keys

variable (runtime : ValidatorRuntime)

mutual
/-- What the keys of a value are found to have, at any depth, with the paths of the keys. -/
def lintExtensionKeys (path : String) : Json → List (String × String)
  | .obj fields => lintFields path fields
  | .arr items => lintItems path 0 items
  | _ => []

/-- What the keys of the items of an array from a place on are found to have. -/
def lintItems (path : String) (index : Nat) : List Json → List (String × String)
  | [] => []
  | item :: rest =>
    lintExtensionKeys (path ++ "[" ++ toString index ++ "]") item ++ lintItems path (index + 1) rest

/-- What the keys of the members of an object are found to have. -/
def lintFields (path : String) : List (String × Json) → List (String × String)
  | [] => []
  | (key, value) :: rest =>
    ((runtime.fragments.find? (fun fragment =>
        Redaction.occursIn fragment.toList (BaseModel.normalizedKey key))).map (fun fragment =>
      (path ++ "." ++ key, "forbidden extension key fragment: " ++ fragment))).toList ++
      lintExtensionKeys (path ++ "." ++ key) value ++ lintFields path rest
end

/-- Check the keys of the documents and the shape of the policy. -/
def validatePolicyShape (config : ConfigDocuments) : Except Raised (List ValidationIssue) := do
  let ofKeys := [("runtime", config.runtime), ("backend_registry", config.backendRegistry),
    ("capacity_registry", config.capacityRegistry)].flatMap (fun (name, document) =>
      (lintExtensionKeys runtime ("$." ++ name) (.obj document)).map (fun (path, reason) =>
        (⟨"extensions.forbidden_key", path ++ ": " ++ reason⟩ : ValidationIssue)))
  let policy ← backendPolicy config
  return ofKeys ++ ["allowed_backend_ids", "allowed_backend_classes"].flatMap (fun key =>
    match Json.getOr policy key (.arr []) with
    | .arr _ => []
    | _ => [⟨"backend_policy.invalid_shape", "backend_policy." ++ key ++ " must be a list"⟩])

end Keys

/-! ## The configuration -/

/-- Check a loaded configuration. -/
def validateLoadedConfig (library : CapacityLibrary) (now : Reading library)
    (runtime : ValidatorRuntime) (config : ConfigDocuments) : Except Raised ValidationResult := do
  let ofMode ← validateRuntimeMode runtime config
  let ofRoutebook ← validateRoutebookAndBackendRegistry library now runtime config
  let ofCapacity ← validateCapacityRegistry runtime config
  let ofPolicy ← validatePolicyShape runtime config
  let issues := ofMode ++ ofRoutebook ++ ofCapacity ++ ofPolicy
  return { ok := issues.isEmpty, issues }

end ConfigValidator

end TokenBank
