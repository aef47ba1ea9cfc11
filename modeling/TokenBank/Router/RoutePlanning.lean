import Mathlib.Data.Prod.Lex
import TokenBank.Order.Ranking
import TokenBank.Router.Profiles

/-!
# Planning routes

The candidates of a work unit come from the routebook's rules for its task type, each
resolved to a backend and a worker. A plan lists them in a normal order and selects the
first. A validator refuses plans that lack a verifier, go around the gateway of the
control plane, or contain anything the routebook forbids.
-/

namespace TokenBank

/-! ## Candidates -/

namespace CandidateGenerator

/-- What rules are ordered by. -/
def ruleKey (rule : CandidateRule) : Int ×ₗ String := toLex (rule.priority, rule.ruleId)

/-- The rules for a task type, in their order. -/
def matchingCandidateRules (routebook : LoadedRoutebook) (taskType : String) : List CandidateRule :=
  Ranking.ranked ruleKey (routebook.candidateRules.filter (fun rule => rule.taskType = taskType))

/-- How a candidate selects its worker. -/
def workerSelector : Option String → JsonObject
  | none => [("selector_type", .str "registry")]
  | some workerId => [("selector_type", .str "worker_id"), ("worker_id", .str workerId)]

/-- The hints of a routebook for a task type. -/
def policyHints (routebook : LoadedRoutebook) (taskType : String) : List String :=
  (routebook.policyHints.lookup taskType).getD []

/-- The candidate of a resolved rule. -/
def routeCandidate (rule : CandidateRule) (resolution : BackendResolution)
    (estimatedCostMicros : Nat) (verifierRecipeId : Option String) (hints : List String) :
    Except Raised RouteCandidate := do
  let routeCandidateId ← BaseModel.nonEmptyStr rule.ruleId
  let policyHints ← BaseModel.nonEmptyStrs hints
  if positive : 0 < rule.priority.toNat then
    return {
      routeCandidateId := routeCandidateId
      capacityNodeId := resolution.capacityNodeId
      backendClass := resolution.backendClass
      backendId := resolution.backendId
      workerSelector := workerSelector resolution.workerId
      priority := rule.priority.toNat
      estimatedCostMicros := estimatedCostMicros
      verifierRecipeId := verifierRecipeId.map BaseModel.stripped
      policyHints := policyHints
      positive := positive }
  else .error .validationError

/-- The candidate that a rule makes for a task type. -/
def candidateOf (routebook : LoadedRoutebook) (resolver : BackendResolver) (taskType : String)
    (rule : CandidateRule) : Except Raised RouteCandidate := do
  let resolution ← resolver.resolve rule
  let backend ← resolver.backendRegistry.get resolution.backendId
  routeCandidate rule resolution backend.costModel.estimatedCostMicros
    (routebook.verifierMapping.lookup taskType) (policyHints routebook taskType)

/-- The candidates for a task type. -/
def generate (routebook : LoadedRoutebook) (resolver : BackendResolver) (taskType : String) :
    Except Raised (List RouteCandidate) :=
  (matchingCandidateRules routebook taskType).mapM (candidateOf routebook resolver taskType)

end CandidateGenerator

/-! ## The normal order -/

namespace RoutePlanNormalizer

/-- What candidates are ordered by. -/
def candidateKey (candidate : RouteCandidate) : Nat ×ₗ String ×ₗ String :=
  toLex (candidate.priority, toLex (candidate.backendId, candidate.routeCandidateId))

/-- Candidates in the normal order. -/
def sortedCandidates (candidates : List RouteCandidate) : List RouteCandidate :=
  Ranking.ranked candidateKey candidates

/-- A candidate with the members of its worker selector in the order of their keys. -/
def normalizeCandidate (candidate : RouteCandidate) : RouteCandidate :=
  { candidate with
    workerSelector := candidate.workerSelector.insertionSort (fun left right => left.1 ≤ right.1) }

/-- The candidates of a normal plan. -/
def normalizedCandidates (candidates : List RouteCandidate) : List RouteCandidate :=
  (sortedCandidates candidates).map normalizeCandidate

/-- There are normal candidates where there are candidates. -/
theorem normalizedCandidates_ne_nil (candidates : List RouteCandidate) (some : candidates ≠ []) :
    normalizedCandidates candidates ≠ [] := by
  simpa [normalizedCandidates, sortedCandidates] using Ranking.ranked_ne_nil candidateKey candidates some

/-- A plan with its candidates in the normal order, the first one selected. -/
def normalize (routePlan : RoutePlan) : RoutePlan :=
  { routePlan with
    candidates := normalizedCandidates routePlan.candidates
    selectedCandidateId := (((sortedCandidates routePlan.candidates).head?).map
      RouteCandidate.routeCandidateId).getD routePlan.selectedCandidateId
    nonEmpty := normalizedCandidates_ne_nil _ routePlan.nonEmpty }

end RoutePlanNormalizer

/-! ## Validation -/

namespace RoutePlanValidator

/-- Refuse a plan that lacks the verifier its level needs, or has another one than the
routebook's. -/
def validateVerifier (routebook : LoadedRoutebook) (routePlan : RoutePlan) : Except Raised Unit := do
  if routebook.requiresVerifier routePlan.taskLevel then
    Store.ensure (routePlan.verifierRecipeId ≠ "")
      (.valueError "L1/L2/L3 RoutePlan requires verifier_recipe_id")
    Store.ensure (routebook.verifierMapping.lookup routePlan.taskType =
      some routePlan.verifierRecipeId)
      (.valueError "RoutePlan verifier_recipe_id does not match routebook")
    Store.ensure (routePlan.candidates.all (fun candidate =>
      candidate.verifierRecipeId.any (fun recipe => recipe != "")) = true)
      (.valueError "L1/L2/L3 RouteCandidate requires verifier_recipe_id")
  else return ()

/-- Refuse a candidate with an unknown backend, a class that is not its backend's or that
is forbidden, or a gateway on another worker than the control plane's. -/
def validateCandidate (routebook : LoadedRoutebook) (registry : BackendRegistry)
    (candidate : RouteCandidate) : Except Raised Unit :=
  match registry.find? candidate.backendId with
  | none => .error (.valueError "unknown backend_id")
  | some backend => do
    Store.ensure (candidate.backendClass = backend.backendClass)
      (.valueError "candidate backend_class does not match backend_id")
    Store.ensure (candidate.backendClass.text ∉ routebook.forbiddenRoutes.forbiddenBackendClasses)
      (.valueError "forbidden backend_class")
    if candidate.backendClass.apiGateway then
      Store.ensure ((Json.get candidate.workerSelector "worker_id").same
        (.str controlPlaneGatewayWorkerId) = true)
        (.valueError "worker direct API model route is denied")
      Store.ensure (candidate.capacityNodeId = capacityNodeId controlPlaneGatewayWorkerId)
        (.valueError "API model gateway route must use control-plane gateway")
    else return ()

/-- Refuse a plan that selects none of its candidates, or has a candidate to refuse. -/
def validateCandidates (routebook : LoadedRoutebook) (registry : BackendRegistry)
    (routePlan : RoutePlan) : Except Raised Unit := do
  Store.ensure (routePlan.candidates.any (fun candidate =>
    candidate.routeCandidateId = routePlan.selectedCandidateId) = true)
    (.valueError "selected_candidate_id is not a candidate")
  routePlan.candidates.forM (validateCandidate routebook registry)

/-- The domains of a plan may not come from what was fetched or from a model. -/
def deniedDomainsSource (fields : JsonObject) : Except Raised Unit :=
  match Json.get fields "allowed_domains_source" with
  | .str "fetched_content" =>
    .error (.valueError "LLM/fetched-content generated allowed_domains are denied")
  | .str "llm" => .error (.valueError "LLM/fetched-content generated allowed_domains are denied")
  | .arr _ => .error .typeError
  | .obj _ => .error .typeError
  | _ => .ok ()

section Scan

variable (runtime : PythonRuntime) (forbidden : ForbiddenRoutes)

/-- One of some fragments occurs in a text. -/
def hasFragment (fragments : List String) (text : List Char) : Bool :=
  fragments.any (fun fragment => Redaction.occursIn fragment.toList text)

/-- Refuse a member with a forbidden key, or a forbidden backend id. -/
def scanMember (path key : String) (value : Json) : Except Raised Unit := do
  Store.ensure (hasFragment forbidden.forbiddenFieldFragments (Redaction.normalizedKey key) = false)
    (.valueError ("forbidden route field at " ++ path ++ "." ++ key))
  Store.ensure (¬ (Redaction.normalizedKey key = "backend_id".toList ∧
    hasFragment forbidden.forbiddenBackendIdFragments (runtime.str value).toList = true))
    (.valueError "OpenAI-compatible proxy route")

mutual
/-- Refuse what the routebook forbids, at any depth of a value. -/
def scan (path : String) : Json → Except Raised Unit
  | .obj fields => do
    deniedDomainsSource fields
    scanFields path fields
  | .arr items => scanItems path 0 items
  | .str text =>
    if hasFragment forbidden.forbiddenPathFragments text.toList then
      .error (.valueError "OpenAI-compatible proxy route")
    else .ok ()
  | _ => .ok ()

/-- Refuse what the routebook forbids in the items of an array. -/
def scanItems (path : String) : Nat → List Json → Except Raised Unit
  | _, [] => .ok ()
  | index, item :: rest => do
    scan (path ++ "[" ++ toString index ++ "]") item
    scanItems path (index + 1) rest

/-- Refuse what the routebook forbids in the members of an object. -/
def scanFields (path : String) : List (String × Json) → Except Raised Unit
  | [] => .ok ()
  | (key, value) :: rest => do
    scanMember runtime forbidden path key value
    scan (path ++ "." ++ key) value
    scanFields path rest
end

end Scan

/-- Validate a plan. -/
def validate (runtime : PythonRuntime) (routebook : LoadedRoutebook) (registry : BackendRegistry)
    (routePlan : RoutePlan) : Except Raised RoutePlan := do
  scan runtime routebook.forbiddenRoutes "$" (.obj routePlan.modelDump)
  validateVerifier routebook routePlan
  validateCandidates routebook registry routePlan
  return routePlan

end RoutePlanValidator

end TokenBank
