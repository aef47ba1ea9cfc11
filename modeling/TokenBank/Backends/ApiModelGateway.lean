import TokenBank.Backends.BrowserFetch
import TokenBank.Backends.Resolver

/-!
# The gateway to model providers

The gateway runs on the control plane alone, as its worker and its capacity node. Topics are
classified and claims are extracted by fixed rules on words; for any other task it must have the
credential of a provider, which it does not call either. How a value is written as a text, and
which characters are upper case, are parameters.
-/

namespace TokenBank

/-- What the gateway is given besides: what the runtime knows about texts. -/
structure GatewayPlatform extends WebPlatform where
  runtime : PythonRuntime
  isUpper : Char → Bool

namespace APIModelGatewayAdapter

open Canonical

/-- The capacity node of the gateway. -/
def controlPlaneGatewayNodeId : String := capacityNodeId controlPlaneGatewayWorkerId

/-- A value, or another one if it is empty. -/
def orElse (value other : Json) : Json := if value.truthy then value else other

/-- A text, or another one if there is none or it is empty. -/
def textOr (text : Option String) (other : String) : String :=
  if text.getD "" = "" then other else text.getD ""

/-- The texts of a value that are not empty and are of some kind, if there are any, or others. -/
def textsOr (value : Json) (allowed : String → Bool) (others : List String) : List String :=
  match value with
  | .arr items =>
    let texts := items.filterMap (fun item => item.textual.filter allowed)
    if texts = [] then others else texts
  | _ => others

/-! ## Topics -/

/-- Topics there are unless the input says which. -/
def defaultTopicLabels : List String := ["engineering", "finance", "policy", "science", "general"]

/-- Words of some topics. -/
def topicKeywords : List (String × List String) :=
  [("engineering", ["api", "code", "software", "database", "worker"]),
    ("finance", ["cost", "revenue", "budget", "price", "market"]),
    ("policy", ["policy", "regulation", "compliance", "governance"]),
    ("science", ["research", "experiment", "paper", "science", "evidence"])]

/-- The topics of an input. -/
def allowedLabels (payload : JsonObject) : List String :=
  textsOr (Json.get payload "allowed_labels") (fun label => label ≠ "") defaultTopicLabels

/-- A text has one of some words. -/
def mentions (text : List Char) (keywords : List String) : Bool :=
  keywords.any (fun keyword => Redaction.occursIn keyword.toList text)

section Texts

variable (platform : GatewayPlatform)

/-- Classify an input by the first topic whose words it has. -/
def classifyTopicStub (payload : JsonObject) : JsonObject :=
  let labels := allowedLabels payload
  let text := platform.texts.lower (platform.runtime.str
    (orElse (Json.get payload "text") (orElse (Json.get payload "content") (.str "")))).toList
  let found := topicKeywords.find? (fun topic => labels.contains topic.1 && mentions text topic.2)
  [("ok", .bool true), ("label", .str ((found.map Prod.fst).getD (labels.headD ""))),
    ("confidence", .float (if found.isSome then "0.88" else "0.72")),
    ("allowed_labels", .arr (labels.map .str)), ("gateway", .str "api_model_gateway"),
    ("provider_call_executed", .bool false), ("control_plane_only", .bool true),
    ("deterministic_stub", .bool true)]

/-! ## Claims -/

/-- Types of claims. -/
def defaultClaimTypes : List String := ["factual", "metric", "policy", "product", "other"]

/-- The types of claims of an input. -/
def allowedClaimTypes (payload : JsonObject) : List String :=
  textsOr (Json.get payload "allowed_claim_types") defaultClaimTypes.contains defaultClaimTypes

/-- The id and the text of a source, if it has both. -/
def sourceText : Json → Option (String × String)
  | .obj source => do
    let sourceId ← (orElse (Json.get source "source_id") (Json.get source "id")).nonEmptyText
    let text ← (orElse (Json.get source "text") (Json.get source "content")).textual
    return (sourceId, text)
  | _ => none

/-- The source of a claim: the first one of the sources, or the input itself. -/
def claimSource (payload : JsonObject) : String × String :=
  let sources := match Json.get payload "sources" with
    | .arr sources => sources
    | _ => []
  (sources.findSome? sourceText).getD
    ((Json.get payload "source_id").nonEmptyText.getD "src_claim_1",
      (orElse (Json.get payload "text") (Json.get payload "content")).nonEmptyText.getD
        "No claim text provided.")

/-- The type of a claim by the words it has, if it is allowed. -/
def claimType (text : List Char) (allowed : List String) : String :=
  let normalized := platform.texts.lower text
  let preferred :=
    if mentions normalized ["cost", "revenue", "price", "budget"] then "metric"
    else if mentions normalized ["policy", "regulation", "compliance"] then "policy"
    else if mentions normalized ["product", "api", "gateway", "model"] then "product"
    else "factual"
  if allowed.contains preferred then preferred else allowed.headD ""

/-- What is in front of the first occurrence of a text. -/
def beforeText (separator : List Char) : List Char → List Char
  | [] => []
  | character :: rest =>
    if separator.isPrefixOf (character :: rest) then []
    else character :: beforeText separator rest

/-- A text without some characters behind it. -/
def rstrip (characters text : List Char) : List Char :=
  (text.reverse.dropWhile characters.contains).reverse

/-- The first sentence of a text. -/
def firstSentence (text : List Char) : List Char :=
  let stripped := spaced (strip text)
  if stripped = [] then "No claim text provided.".toList
  else
    let sentence :=
      match [". ", "! ", "? "].find? (fun separator =>
        Redaction.occursIn separator.toList stripped) with
      | some separator => beforeText separator.toList stripped
      | none => stripped
    rstrip ['.', '!', '?'] sentence ++ ['.']

/-- What a claim is about: what the input says, or the first word that is written like a name. -/
def claimEntity (payload : JsonObject) (claimText : List Char) : String :=
  match (Json.get payload "entity").nonEmptyText with
  | some entity => entity
  | none =>
    let named := (words (claimText.filter (fun character => character ≠ '.'))).find? (fun token =>
      (token.head?.any platform.isUpper) &&
        !(["the".toList, "a".toList, "an".toList].contains (platform.texts.lower token)))
    match named with
    | some token =>
      String.ofList (rstrip [',', ';', ':'] (token.dropWhile [',', ';', ':'].contains))
    | none => "TokenBank"

/-- Extract the first sentence of an input as a claim. -/
def extractClaimsStub (payload : JsonObject) : JsonObject :=
  let source := claimSource payload
  let allowed := allowedClaimTypes payload
  let claimText := firstSentence source.2.toList
  [("ok", .bool true),
    ("claims", .arr [.obj
      [("claim_text", .str (String.ofList claimText)),
        ("entity", .str (claimEntity platform payload claimText)),
        ("claim_type", .str (claimType platform source.2.toList allowed)),
        ("confidence", .float "0.86"), ("source_post_refs", .arr [.str source.1]),
        ("evidence_hint", .str (String.ofList claimText))]]),
    ("source_ids", .arr [.str source.1]), ("allowed_claim_types", .arr (allowed.map .str)),
    ("gateway", .str "api_model_gateway"), ("provider_call_executed", .bool false),
    ("control_plane_only", .bool true), ("deterministic_stub", .bool true)]

end Texts

/-! ## Executing -/

/-- An output that is structured, as it is, or in a structured one. -/
def repairStructuredOutputStub (output : JsonObject) : JsonObject :=
  if Json.has output "structured_output" then output
  else [("structured_output", .obj output), ("repair_applied", .bool true)]

/-- The output of the gateway for other tasks. -/
def scaffoldOutput : JsonObject := repairStructuredOutputStub
  [("ok", .bool true), ("gateway", .str "api_model_gateway"), ("structured_output", .obj []),
    ("provider_call_executed", .bool false), ("control_plane_only", .bool true)]

section Executing

variable (platform : GatewayPlatform) (clock : ExecutionClock) (context : ExecutionContext)

/-- The error of an execution that is not on the control plane. -/
def controlPlaneBoundaryError : Except Raised (Option BackendError) :=
  if context.workerId ≠ some controlPlaneGatewayWorkerId then
    Backends.denied platform.library clock.occurredAt
      "api_model_gateway.worker_direct_denied"
      "API model gateway must run through control-plane gateway" false
      [("worker_id", Json.optional context.workerId)]
  else if context.capacityNodeId ≠ some controlPlaneGatewayNodeId then
    Backends.denied platform.library clock.occurredAt
      "api_model_gateway.capacity_node_denied"
      "API model gateway capacity node must be control-plane gateway" false
      [("capacity_node_id", Json.optional context.capacityNodeId)]
  else return none

/-- The envelope of an execution that succeeds. -/
def completed (usage : UsageRecord) (output : JsonObject) (modelId : Option String)
    (message : String) : Except Raised WorkUnitResultEnvelope :=
  Adapter.buildResultEnvelope platform.library platform.sha256 context.toBackendExecutionContext
    output [usage] clock.startedAt clock.completedAt "succeeded" [] [message] context.providerId
    modelId

/-- Execute a task of the gateway. -/
def execute : Except Raised WorkUnitResultEnvelope := do
  let usage ← Backends.makeUsageRecord platform.sha256 clock.recordedAt context.workUnitId
    context.attemptId context.backendId .estimated .low 1000 0
  match ← controlPlaneBoundaryError platform clock context with
  | some error =>
    Adapter.buildResultEnvelope platform.library platform.sha256 context.toBackendExecutionContext
      [("ok", .bool false), ("reason", .str error.errorCode)] [usage] clock.startedAt
      clock.completedAt "failed" [error] [] context.providerId context.modelId
  | none =>
    if context.taskType = "topic_classification" then
      completed platform clock context usage (classifyTopicStub platform context.inputPayload)
        (some (textOr context.modelId "model:p0_topic_stub"))
        "api_model_gateway deterministic topic stub completed on control plane"
    else if context.taskType = "claim_extraction" then
      completed platform clock context usage (extractClaimsStub platform context.inputPayload)
        (some (textOr context.modelId "model:p0_claim_stub"))
        "api_model_gateway deterministic claim stub completed on control plane"
    else if context.providerToken.getD "" = "" then
      let error ← Backends.normalizeBackendError platform.library clock.occurredAt
        "api_model_gateway.credentials_missing"
        "API model gateway provider credential is not configured" false true
        [("provider_id", .str (textOr context.providerId "default"))]
      Adapter.buildResultEnvelope platform.library platform.sha256
        context.toBackendExecutionContext
        [("ok", .bool false), ("reason", .str "credentials_missing")] [usage] clock.startedAt
        clock.completedAt "failed" [error] ["api_model_gateway credential lookup failed"]
        context.providerId context.modelId
    else
      completed platform clock context usage scaffoldOutput context.modelId
        "api_model_gateway scaffold completed on control plane"

end Executing

end APIModelGatewayAdapter

end TokenBank
