import TokenBank.Backends.Execution
import TokenBank.Core.CanonicalUrl

/-!
# The local tool backend

The tool checks a URL without asking the network. The URL is looked for in the input and then in
the constraints, at any depth; it must be a web address, and its canonical form is taken apart for
the output. Splitting a URL may raise an exception, and nothing here handles it.
-/

namespace TokenBank

/-- What an adapter of web addresses is given besides: what is known of texts and addresses. -/
structure WebPlatform extends BackendPlatform where
  texts : Url.Library

namespace Canonical

/-- What a refused URL is refused with, without the parts of it that the text repeats. -/
def refusal : Url.UrlError → String
  | .brackets => "Invalid IPv6 URL"
  | .bracketedHost => "Invalid host in brackets"
  | .compatibility => "netloc contains invalid characters under NFKC normalization"
  | .portNotNumber => "Port could not be cast to integer value"
  | .portRange => "Port out of range 0-65535"

/-- A refused URL raises an exception. -/
def raising {α : Type} (result : Except Url.UrlError α) : Except Raised α :=
  result.mapError (fun error => .valueError (refusal error))

end Canonical

namespace Backends

/-- The error of a check that denies an execution, which is not retried. -/
def denied (library : ModelLibrary) (occurredAt errorCode errorMessage : String)
    (fallbackable : Bool) (details : JsonObject := []) : Except Raised (Option BackendError) := do
  let error ← normalizeBackendError library occurredAt errorCode errorMessage false fallbackable
    details
  return some error

end Backends

namespace LocalToolAdapter

open Url Canonical

/-- The URL of a payload: a text under one of two keys, or the URL of the first nested payload
that has one. -/
def urlOf (fields : JsonObject) (nested : List (String × Option String)) : Option String :=
  (["url", "target_url"].findSome? (fun key => (Json.get fields key).textual)).or
    (["input", "inline_input", "body"].findSome? (fun key =>
      (nested.find? (fun field => field.1 = key)).bind Prod.snd))

mutual
/-- The URL in a payload. -/
def urlIn : Json → Option String
  | .obj fields => urlOf fields (urlsIn fields)
  | _ => none

/-- The URLs in the members of a payload. -/
def urlsIn : List (String × Json) → List (String × Option String)
  | [] => []
  | (key, value) :: rest => (key, urlIn value) :: urlsIn rest
end

/-- The URL in the first of some payloads that has one. -/
def extractUrl (payloads : List JsonObject) : Option String :=
  payloads.findSome? (fun payload => urlIn (.obj payload))

/-- The URL of an execution. -/
def contextUrl (context : ExecutionContext) : Option String :=
  extractUrl [context.inputPayload, context.effectiveConstraints]

/-- A text comes before what is nested, whatever it is. -/
example : extractUrl [[("input", .obj [("url", .int 1), ("body", .obj [("target_url", .str "a")])])],
    [("url", .str "b")]] = some "a" := by decide

/-- The parts are those of a web address. -/
def isWeb (parts : SplitResult) : Bool :=
  ["http".toList, "https".toList].contains parts.scheme && parts.netloc ≠ []

section Library

variable (library : Library)

/-- The URL is a web address. -/
def isHttpUrl : Option String → Except UrlError Bool
  | none => .ok false
  | some url =>
    if url = "" then .ok false
    else do
      let parts ← urlsplit library url.toList
      return isWeb parts

/-- The output for a canonical URL. -/
def checkedOutput (normalized : List Char) : Except UrlError JsonObject := do
  let parts ← urlsplit library normalized
  return [("ok", .bool true), ("tool", .str "url_check"), ("url", .str (String.ofList normalized)),
    ("scheme", .str (String.ofList parts.scheme)),
    ("host", Json.optional ((hostname library parts).map String.ofList)),
    ("network_checked", .bool false), ("local_tool_stub", .bool true),
    ("phase0_local_stub", .bool true)]

end Library

/-- Execute a check of a URL. -/
def execute (platform : WebPlatform) (clock : ExecutionClock) (context : ExecutionContext) :
    Except Raised WorkUnitResultEnvelope := do
  let url := contextUrl context
  let usage ← Backends.makeUsageRecord platform.sha256 clock.recordedAt context.workUnitId
    context.attemptId context.backendId .zeroInternalPhase0 .high
  if ← raising (isHttpUrl platform.texts url) then
    let normalized ← raising (canonicalUrl platform.texts (url.getD "").toList)
    let output ← raising (checkedOutput platform.texts normalized)
    Adapter.buildResultEnvelope platform.library platform.sha256 context.toBackendExecutionContext
      output [usage] clock.startedAt clock.completedAt "succeeded" []
      ["url_check completed without external provider call"]
  else
    let error ← Backends.normalizeBackendError platform.library clock.occurredAt
      "local_tool.bad_input" "url_check requires an explicit http or https URL" false false
      [("task_type", .str context.taskType)]
    Adapter.buildResultEnvelope platform.library platform.sha256 context.toBackendExecutionContext
      [("ok", .bool false), ("reason", .str "invalid_url")] [usage] clock.startedAt
      clock.completedAt "failed" [error] ["url_check rejected invalid input"]

end LocalToolAdapter

end TokenBank
