import TokenBank.Backends.ApiModelGateway
import TokenBank.Backends.LocalScript

/-!
# The other backends, and the adapter of each class

A local model is not configured, and a class that is not known is not supported: both fail, and
another backend may take over. The gateway to the primary model keeps to the control plane as the
gateway to providers does, and needs a credential as well. The class of a backend chooses its
adapter.
-/

namespace TokenBank

/-- What the adapters of all classes are given together. -/
structure AdaptersPlatform extends GatewayPlatform where
  feed : List Char → Except Raised (List HtmlEvent)

namespace AdaptersPlatform

/-- What the browser backend is given of it. -/
def browser (platform : AdaptersPlatform) : BrowserPlatform :=
  { platform.toWebPlatform with feed := platform.feed }

end AdaptersPlatform

/-- Execute a task of a local model, which is not configured. -/
def LocalModelAdapter.execute (platform : BackendPlatform) (clock : ExecutionClock)
    (context : ExecutionContext) : Except Raised WorkUnitResultEnvelope := do
  let usage ← Backends.makeUsageRecord platform.sha256 clock.recordedAt context.workUnitId
    context.attemptId context.backendId .zeroInternalPhase0 .low
  let error ← Backends.normalizeBackendError platform.library clock.occurredAt
    "local_model.not_configured" "local_model backend scaffold is not configured in WP9" false true
  Adapter.buildResultEnvelope platform.library platform.sha256 context.toBackendExecutionContext
    [("ok", .bool false), ("reason", .str "local_model_not_configured")] [usage] clock.startedAt
    clock.completedAt "failed" [error]

/-- Execute a task of a class that is not supported. -/
def UnsupportedBackendAdapter.execute (platform : BackendPlatform) (clock : ExecutionClock)
    (context : ExecutionContext) : Except Raised WorkUnitResultEnvelope := do
  let error ← Backends.normalizeBackendError platform.library clock.occurredAt
    "backend.unsupported" ("unsupported backend_class: " ++ context.backendClass) false true
    [("backend_id", .str context.backendId)]
  let usage ← Backends.makeUsageRecord platform.sha256 clock.recordedAt context.workUnitId
    context.attemptId context.backendId
  Adapter.buildResultEnvelope platform.library platform.sha256 context.toBackendExecutionContext
    [("ok", .bool false), ("reason", .str "unsupported_backend")] [usage] clock.startedAt
    clock.completedAt "failed" [error]

namespace PrimaryModelGatewayAdapter

/-- The output of the gateway. -/
def scaffoldOutput : JsonObject := APIModelGatewayAdapter.repairStructuredOutputStub
  [("ok", .bool true), ("gateway", .str "primary_model_gateway"), ("structured_output", .obj []),
    ("provider_call_executed", .bool false), ("control_plane_only", .bool true),
    ("fallback_path", .bool true)]

/-- Execute a task of the gateway. -/
def execute (platform : GatewayPlatform) (clock : ExecutionClock) (context : ExecutionContext) :
    Except Raised WorkUnitResultEnvelope := do
  let usage ← Backends.makeUsageRecord platform.sha256 clock.recordedAt context.workUnitId
    context.attemptId context.backendId .estimated .low 1000 0
  match ← APIModelGatewayAdapter.controlPlaneBoundaryError platform clock context with
  | some error =>
    Adapter.buildResultEnvelope platform.library platform.sha256 context.toBackendExecutionContext
      [("ok", .bool false), ("reason", .str error.errorCode)] [usage] clock.startedAt
      clock.completedAt "failed" [error] [] context.providerId context.modelId
  | none =>
    if context.providerToken.getD "" = "" then
      let error ← Backends.normalizeBackendError platform.library clock.occurredAt
        "primary_model_gateway.credentials_missing"
        "Primary model gateway provider credential is not configured" false true
        [("provider_id", .str (APIModelGatewayAdapter.textOr context.providerId "default"))]
      Adapter.buildResultEnvelope platform.library platform.sha256
        context.toBackendExecutionContext
        [("ok", .bool false), ("reason", .str "credentials_missing")] [usage] clock.startedAt
        clock.completedAt "failed" [error] ["primary_model_gateway credential lookup failed"]
        context.providerId context.modelId
    else
      Adapter.buildResultEnvelope platform.library platform.sha256
        context.toBackendExecutionContext scaffoldOutput [usage] clock.startedAt clock.completedAt
        "succeeded" [] ["primary_model_gateway scaffold completed on control plane"]
        context.providerId context.modelId

end PrimaryModelGatewayAdapter

/-- How the adapter of a class executes. -/
def Adapter.adapterForBackendClass (platform : AdaptersPlatform) (backendClass : String) :
    ExecutionClock → ExecutionContext → Except Raised WorkUnitResultEnvelope :=
  if backendClass = "api_model_gateway" then
    APIModelGatewayAdapter.execute platform.toGatewayPlatform
  else if backendClass = "browser_fetch" then BrowserFetchAdapter.execute platform.browser
  else if backendClass = "local_model" then LocalModelAdapter.execute platform.toBackendPlatform
  else if backendClass = "local_script" then LocalScriptAdapter.execute platform.toBackendPlatform
  else if backendClass = "local_tool" then LocalToolAdapter.execute platform.toWebPlatform
  else if backendClass = "primary_model_gateway" then
    PrimaryModelGatewayAdapter.execute platform.toGatewayPlatform
  else UnsupportedBackendAdapter.execute platform.toBackendPlatform

end TokenBank
