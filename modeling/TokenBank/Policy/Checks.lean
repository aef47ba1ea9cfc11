import TokenBank.Config.Loaded
import TokenBank.Models.Base
import TokenBank.Router.Profiles

/-!
# Policy checks

Whether a route may be executed is decided from the documents of the work unit, of the
plan and of the backend, from the worker, and from the backend policy of the
configuration. Nothing of the analysis of the work unit is among them.
-/

namespace TokenBank

/-- A decision of the policy. -/
inductive PolicyDecisionValue : Type
  | approved
  | denied
  | needsReview
deriving DecidableEq

/-- The text of a decision. -/
def PolicyDecisionValue.text : PolicyDecisionValue → String
  | .approved => "approved"
  | .denied => "denied"
  | .needsReview => "needs_review"

/-- A decision of the policy, with its reasons. -/
structure PolicyDecision where
  policyDecisionId : String
  workUnitId : String
  routePlanId : String
  decision : PolicyDecisionValue
  reasons : List String
  checks : List Json
  effectiveConstraints : JsonObject
  decidedAt : String

/-- The document of a decision. -/
def PolicyDecision.modelDump (decision : PolicyDecision) : JsonObject :=
  [schemaVersion, ("policy_decision_id", .str decision.policyDecisionId),
    ("work_unit_id", .str decision.workUnitId), ("route_plan_id", .str decision.routePlanId),
    ("decision", .str decision.decision.text), ("reasons", .arr (decision.reasons.map .str)),
    ("checks", .arr decision.checks),
    ("effective_constraints", .obj decision.effectiveConstraints),
    ("decided_at", .str decision.decidedAt)]

/-- One check of the policy. -/
structure PolicyCheck where
  name : String
  passed : Bool
  reason : String

/-- The document of a check. -/
def PolicyCheck.asDict (check : PolicyCheck) : Json :=
  .obj [("name", .str check.name), ("passed", .bool check.passed), ("reason", .str check.reason)]

namespace Policy

/-- The key of an amount of money. -/
def microsKey (key : String) : Bool := "_micros".toList.isSuffixOf key.toList

/-- The value is an integer, and no truth value. -/
def isInteger : Json → Bool
  | .int _ => true
  | _ => false

mutual
/-- A value has an amount of money that is no integer, at any depth. -/
def containsBadMicros : Json → Bool
  | .obj fields => fieldsBadMicros fields
  | .arr items => itemsBadMicros items
  | _ => false

/-- An item of an array has such an amount. -/
def itemsBadMicros : List Json → Bool
  | [] => false
  | item :: rest => containsBadMicros item || itemsBadMicros rest

/-- A member of an object is such an amount or has one. -/
def fieldsBadMicros : List (String × Json) → Bool
  | [] => false
  | (key, value) :: rest =>
    (microsKey key && !isInteger value) || containsBadMicros value || fieldsBadMicros rest
end

/-- Substrings that no key of an extension may have. -/
def forbiddenExtensionKeyFragments : List String :=
  ["seller", "marketplace", "payment", "payout", "settlement", "yield", "apr", "credit_trading",
    "account_pool", "oauth_proxy", "credential_broker"]

mutual
/-- Extensions have a forbidden key, at any depth. -/
def lintExtensionKeys : Json → Bool
  | .obj fields => lintFields fields
  | .arr items => lintItems items
  | _ => false

/-- An item of an array has a forbidden key. -/
def lintItems : List Json → Bool
  | [] => false
  | item :: rest => lintExtensionKeys item || lintItems rest

/-- A member of an object has a forbidden key, or its value does. -/
def lintFields : List (String × Json) → Bool
  | [] => false
  | (key, value) :: rest =>
    forbiddenExtensionKeyFragments.any (fun fragment =>
      Redaction.occursIn fragment.toList (BaseModel.normalizedKey key)) ||
      lintExtensionKeys value || lintFields rest
end

/-- The texts of an object's member, or of another's where it has none. -/
def textOf (runtime : PythonRuntime) (first second : JsonObject) (key : String) : String :=
  let value := Json.get first key
  runtime.str (if value.truthy then value else Json.get second key)

/-- The checks of the policy. -/
def policyChecks (runtime : PythonRuntime) (config : LoadedConfig)
    (workUnit routePlan backendManifest : JsonObject) (workerId : String) : List PolicyCheck :=
  let backendId := textOf runtime routePlan backendManifest "backend_id"
  let backendClass := textOf runtime routePlan backendManifest "backend_class"
  let taskLevel := if Json.has workUnit "task_level" then
    runtime.str (Json.get workUnit "task_level") else ""
  [⟨"default_deny_inputs_present",
      !workUnit.isEmpty && !routePlan.isEmpty && !backendManifest.isEmpty,
      "work unit, route plan, and backend manifest are required"⟩,
    ⟨"needs_review_denied",
      !((Json.get workUnit "needs_review").truthy || (Json.get routePlan "needs_review").truthy),
      "needs_review is denied in Phase 0"⟩,
    ⟨"backend_allowlist", config.allowedBackendIds.contains backendId,
      "backend_id " ++ backendId ++ " must be allowed"⟩,
    ⟨"backend_class_allowlist", config.allowedBackendClasses.contains backendClass,
      "backend_class " ++ backendClass ++ " must be allowed"⟩,
    ⟨"forbidden_backend_class", !config.forbiddenBackendClasses.contains backendClass,
      "backend_class " ++ backendClass ++ " must not be forbidden"⟩,
    ⟨"worker_direct_api_model_denied",
      !(["api_model_gateway", "primary_model_gateway"].contains backendClass &&
        workerId != controlPlaneGatewayWorkerId),
      "API model gateway execution must stay on the control plane gateway"⟩,
    ⟨"l1_l2_verifier_required",
      !(["L1", "L2"].contains taskLevel) || (Json.get routePlan "verifier_recipe_id").truthy,
      "L1/L2 routes require verifier_recipe_id"⟩,
    ⟨"forbidden_extension_keys",
      !(lintExtensionKeys (Json.get workUnit "extensions") ||
        lintExtensionKeys (Json.get routePlan "extensions") ||
        lintExtensionKeys (Json.get backendManifest "extensions")),
      "seller/marketplace/payment/payout/settlement/yield-like keys are denied"⟩,
    ⟨"micros_fields_integer",
      !containsBadMicros (.arr [.obj workUnit, .obj routePlan, .obj backendManifest]),
      "cost/currency fields ending in _micros must be integers"⟩]

/-- The text of an object's member, or another text where it has none. -/
def textOr (runtime : PythonRuntime) (fields : JsonObject) (key other : String) : String :=
  if Json.has fields key then runtime.str (Json.get fields key) else other

/-- What the id of a decision is computed from. -/
def decisionPayload (workUnitId routePlanId : String) (checks : List PolicyCheck) : Json :=
  .obj [("work_unit_id", .str workUnitId), ("route_plan_id", .str routePlanId),
    ("checks", .arr (checks.map PolicyCheck.asDict))]

/-- Decide whether a route may be executed. -/
def evaluatePolicy (runtime : PythonRuntime) (sha256 : String → String) (config : LoadedConfig)
    (workUnit routePlan backendManifest : JsonObject) (workerId decidedAt : String) :
    PolicyDecision :=
  let checks := policyChecks runtime config workUnit routePlan backendManifest workerId
  let reasons := (checks.filter (fun check => !check.passed)).map PolicyCheck.reason
  let workUnitId := textOr runtime workUnit "work_unit_id" "unknown_work_unit"
  let routePlanId := textOr runtime routePlan "route_plan_id" "unknown_route_plan"
  { policyDecisionId := "pd_" ++ String.ofList ((Canonical.canonicalJsonHash sha256
      (decisionPayload workUnitId routePlanId checks)).toList.take 24)
    workUnitId := workUnitId
    routePlanId := routePlanId
    decision := if checks.all PolicyCheck.passed then .approved else .denied
    reasons := if reasons.isEmpty then ["all deterministic WP3 policy checks passed"] else reasons
    checks := checks.map PolicyCheck.asDict
    effectiveConstraints :=
      [("allowed_backend_ids", .arr ((sortedSet config.allowedBackendIds).map .str)),
        ("allowed_backend_classes", .arr ((sortedSet config.allowedBackendClasses).map .str))]
    decidedAt := decidedAt }

end Policy

end TokenBank
