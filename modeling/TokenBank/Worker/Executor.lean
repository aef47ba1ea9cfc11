import TokenBank.Backends.Scaffolds
import TokenBank.Core.Loads

/-!
# Executing an assignment

A worker takes the class of the backend, the input and the ids of an execution from the document of
its assignment, wherever they are given there, and runs the adapter of the class. It runs none that
needs the credential of a provider: a class or a part of a backend's id that names such a backend
is refused. Writing the output to the sandbox is left out.
-/

namespace TokenBank

namespace LocalToolExecutor

open APIModelGatewayAdapter (orElse)

/-- Classes of backends that a worker does not run. -/
def forbiddenBackendClasses : List String :=
  ["account_pool", "api_model_gateway", "credential_broker", "external_seller", "oauth_proxy",
    "primary_model_gateway"]

/-- A value taken as an object: one itself, or the text of one, and else an empty one. -/
def coerceDict : Json → JsonObject
  | .obj fields => fields
  | .str text =>
    match Canonical.jsonLoads text with
    | some (.obj fields) => fields
    | _ => []
  | _ => []

/-- The first of some values that counts as true, or the last one. -/
def firstOf (values : List Json) (last : Json) : Json := values.foldr orElse last

/-! ## The URL of an assignment -/

/-- The URL of a payload: a text under one of two keys, or the URL of the first nested payload that
has one. -/
def urlOf (fields : JsonObject) (nested : List (String × Option String)) : Option String :=
  (["url", "target_url"].findSome? (fun key => (Json.get fields key).textual)).or
    (["input", "body", "effective_constraints"].findSome? (fun key =>
      (nested.find? (fun field => field.1 = key)).bind Prod.snd))

mutual
/-- The URL in a payload. -/
def findUrl : Json → Option String
  | .obj fields => urlOf fields (findUrls fields)
  | _ => none

/-- The URLs in the members of a payload. -/
def findUrls : List (String × Json) → List (String × Option String)
  | [] => []
  | (key, value) :: rest => (key, findUrl value) :: findUrls rest
end

/-- The URL of an assignment: that of its body, or else one in its constraints or in its body. -/
def extractUrl (assignment : JsonObject) : Option String :=
  let direct := match Json.get assignment "body" with
    | .obj body => (Json.get body "url").textual
    | _ => none
  direct.or (["effective_constraints", "effective_constraints_json", "body_json"].findSome?
    (fun key => findUrl (.obj (coerceDict (Json.get assignment key)))))

/-! ## The backend -/

/-- A worker does not run a backend of this id and class. -/
def isForbiddenBackend (backendId backendClass : String) : Bool :=
  let values := backendClass :: ((backendId.toList.splitOn ':').map String.ofList)
  values.any (fun value => value ∈ forbiddenBackendClasses)

/-- The class that the id of a backend suggests. -/
def backendClassFromId (backendId : String) : String :=
  let has (text : String) := Redaction.occursIn text.toList backendId.toList
  if has "url_check" then "local_tool"
  else if has "local_script" || has "dedup" then "local_script"
  else if has "browser_fetch" then "browser_fetch"
  else "local_tool"

/-! ## Executing -/

section Runtime

variable (runtime : PythonRuntime) (assignment body effectiveConstraints : JsonObject)

/-- The id of the backend. -/
def backendIdOf : String := runtime.str (firstOf [Json.get assignment "backend_id"] (.str ""))

/-- The class of the backend. -/
def backendClassOf (backendId : String) : String :=
  runtime.str (firstOf [Json.get assignment "backend_class", Json.get body "backend_class",
    Json.get effectiveConstraints "backend_class"] (.str (backendClassFromId backendId)))

/-- The input that an assignment carries. -/
def inputPayloadOf : JsonObject :=
  let given := coerceDict (firstOf [Json.get body "input", Json.get effectiveConstraints "input"]
    (Json.get effectiveConstraints "inline_input"))
  if given ≠ [] then given
  else
    match extractUrl assignment with
    | some url => if url ≠ "" then [("url", .str url)] else []
    | none => []

/-- The context of an execution. -/
def executionContext (backendId backendClass : String) : Except Raised ExecutionContext := do
  let inputPayload := inputPayloadOf assignment body effectiveConstraints
  let workUnitId := runtime.str (← Json.item assignment "work_unit_id")
  let runId := runtime.str (firstOf [Json.get body "run_id", Json.get effectiveConstraints "run_id"]
    (.str "run_worker_local"))
  let attemptId := runtime.str (← Json.item assignment "attempt_id")
  let assignmentId := runtime.str (← Json.item assignment "assignment_id")
  let taskType := runtime.str (firstOf [Json.get body "task_type",
    Json.get effectiveConstraints "task_type"] (.str "url_check"))
  let workerId := runtime.str (← Json.item assignment "worker_id")
  let capacityNodeId := runtime.str (firstOf [Json.get assignment "capacity_node_id"] (.str ""))
  return {
    workUnitId, runId, attemptId, assignmentId, backendId
    backendClass := if backendClass = "" then "local_tool" else backendClass
    taskType, inputPayload, effectiveConstraints
    workerId := some workerId
    capacityNodeId := some capacityNodeId }

end Runtime

/-- Execute an assignment. -/
def executeEnvelope (platform : AdaptersPlatform) (clock : ExecutionClock)
    (assignment : JsonObject) : Except Raised WorkUnitResultEnvelope := do
  let backendId := backendIdOf platform.runtime assignment
  let body := coerceDict (Json.get assignment "body")
  let effectiveConstraints := coerceDict (Json.get assignment "effective_constraints")
  let backendClass := backendClassOf platform.runtime assignment body effectiveConstraints backendId
  Store.ensure (isForbiddenBackend backendId backendClass = false)
    (.permissionError "worker cannot call API model providers directly")
  let context ← executionContext platform.runtime assignment body effectiveConstraints backendId
    backendClass
  Adapter.adapterForBackendClass platform backendClass clock context

/-- The parts of an id name a backend as its class does. -/
example : isForbiddenBackend "backend:api_model_gateway:v0" "local_tool" = true ∧
    isForbiddenBackend "backend:url_check:v0" "local_tool" = false := by decide

end LocalToolExecutor

end TokenBank
