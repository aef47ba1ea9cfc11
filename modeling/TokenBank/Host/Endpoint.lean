import TokenBank.Host.Normalizer

/-!
# The endpoint for work units

The endpoint reads a member of a request from its body, or, where the body has none that
counts as true, from the `inline_input` of the body. It knows neither the keys that a host
adapter refuses nor an `input`. Both entries store the work unit of a submission if no key
in it is forbidden.
-/

namespace TokenBank

namespace Host

/-- The input of the work unit that a submission stores, if the work unit is valid. -/
def createdInput (submission : DemoSubmission) (stamp : SubmissionStamp) :
    Except Raised JsonObject := do
  let workUnit := demoWorkUnit submission stamp
  BaseModel.rejectForbiddenKeys (.obj workUnit.modelDump)
  return workUnit.inlineInput

end Host

namespace HostEndpoint

open Host (DemoTask DemoSubmission)

/-- The first value if it counts as true, and else the second one. -/
def orElse (value other : Json) : Json := if value.truthy then value else other

/-- The members of the `inline_input` of a body, if it is an object. -/
def nestedInput (payload : JsonObject) : JsonObject :=
  match Json.get payload "inline_input" with
  | .obj inlineInput => inlineInput
  | _ => []

/-- A member of a body, or of its `inline_input`. -/
def reading (payload : JsonObject) (key : String) : Json :=
  orElse (Json.get payload key) (Json.get (nestedInput payload) key)

/-- A member that must be a text, and not empty. -/
def requiredText (payload : JsonObject) (key message : String) : Except Raised String :=
  match (reading payload key).nonEmptyText with
  | some text => .ok text
  | none => .error (.valueError message)

/-- A member that is nothing, or an array of texts that are not empty. -/
def optionalTexts (payload : JsonObject) (key message : String) :
    Except Raised (Option (List String)) :=
  let refused := .error (.valueError message)
  match reading payload key with
  | .null => .ok none
  | .arr items =>
    match Json.nonEmptyTexts items with
    | some texts => .ok (some texts)
    | none => refused
  | _ => refused

/-- The submission that a body asks for. -/
def submission (payload : JsonObject) : DemoTask → Except Raised DemoSubmission
  | .urlCheck => do
    let url ← requiredText payload "url" "url_check requires url"
    return .urlCheck url
  | .dedup =>
    match reading payload "items" with
    | .arr items => .ok (.dedup items)
    | _ => .error (.valueError "dedup requires items list")
  | .topicClassification => do
    let text ← requiredText payload "text" "topic_classification requires text"
    let allowedLabels ← optionalTexts payload "allowed_labels"
      "topic_classification allowed_labels must be a string list"
    return .topicClassification text allowedLabels
  | .claimExtraction => do
    let text ← requiredText payload "text" "claim_extraction requires text"
    let sourceId := ((reading payload "source_id").nonEmptyText).getD "src_claim_1"
    let allowedClaimTypes ← optionalTexts payload "allowed_claim_types"
      "claim_extraction allowed_claim_types must be a string list"
    return .claimExtraction text sourceId (reading payload "entity").text? allowedClaimTypes
  | .webpageExtraction => do
    let url ← requiredText payload "url" "webpage_extraction requires url"
    return .webpageExtraction url (reading payload "html").text? (reading payload "text").text?
      (reading payload "title").text?

/-- What the endpoint answers. -/
inductive Reply : Type
  | notImplemented (component : String)
  | submitted (input : JsonObject)

/-- Submit the work unit that a body asks for. A body that is no object is refused, and so
is one that an exception about a value is raised for. -/
def submitWorkUnit (stamp : Host.SubmissionStamp) : Json → Except Raised Reply
  | .obj payload =>
    match Json.get payload "task_type" with
    | .arr _ => .error .typeError
    | .obj _ => .error .typeError
    | .str name =>
      match DemoTask.ofText name with
      | some task => do
        let asked ← submission payload task
        let input ← Host.createdInput asked stamp
        return .submitted input
      | none => .ok (.notImplemented "host.work_units.submit.unsupported_demo_task")
    | _ => .ok (.notImplemented "host.work_units.submit.unsupported_demo_task")
  | _ => .error .validationError

end HostEndpoint

namespace HostAdapter

/-- Submit the work unit of a request. -/
def submitWorkUnit (runtime : PythonRuntime) (stamp : Host.SubmissionStamp)
    (taskType : Option String) (payload : Json) : Except Raised JsonObject := do
  let request ← normalizeSubmitRequest taskType payload
  let submission ← submitNormalizedRequest runtime request
  Host.createdInput submission stamp

end HostAdapter

end TokenBank
