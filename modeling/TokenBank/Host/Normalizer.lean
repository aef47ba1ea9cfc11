import TokenBank.Core.Runtime
import TokenBank.Host.Submission

/-!
# What a host adapter makes of a request

A request names a task type and has a payload. The members of its `inline_input`, or of its
`input`, are overlaid by those of the payload itself. The result may not have a key that
looks like a credential, at any depth, nor one that belongs to a request to a model; what
the task type reads of it becomes the input of a work unit.
-/

namespace TokenBank

namespace Json

/-- The members of an object, overlaid by those of another one. -/
def updated (fields others : JsonObject) : JsonObject :=
  fields.map (fun field => (field.1, if has others field.1 then get others field.1 else field.2)) ++
    others.filter (fun field => !has fields field.1)

/-- The members of an object that are not under some keys. -/
def without (fields : JsonObject) (keys : List String) : JsonObject :=
  fields.filter (fun field => !keys.contains field.1)

/-- The texts in an array, if none of its items is anything but a text that is not empty. -/
def nonEmptyTexts (items : List Json) : Option (List String) := items.mapM nonEmptyText

/-- A text, if the value is one. -/
def text? : Json → Option String
  | .str text => some text
  | _ => none

section Keys

variable (named : String → Bool)

mutual
/-- One of the keys of a value is of some kind, at any depth. -/
def someKey : Json → Bool
  | .obj fields => someKeyOfFields fields
  | .arr items => someKeyOfItems items
  | _ => false

/-- One of the keys in the items of an array is of some kind. -/
def someKeyOfItems : List Json → Bool
  | [] => false
  | item :: rest => someKey item || someKeyOfItems rest

/-- One of the keys in the members of an object is of some kind. -/
def someKeyOfFields : List (String × Json) → Bool
  | [] => false
  | (key, value) :: rest => named key || someKey value || someKeyOfFields rest
end

/-- Texts have no keys. -/
theorem someKeyOfItems_texts (texts : List String) :
    someKeyOfItems named (texts.map .str) = false := by
  induction texts with
  | nil => rfl
  | cons text rest inductionHypothesis =>
    rw [List.map_cons, someKeyOfItems, inductionHypothesis]
    rfl

/-- The keys of a member are keys of the object that has it. -/
theorem someKey_get (fields : JsonObject) (key : String)
    (plain : someKeyOfFields named fields = false) :
    someKey named (get fields key) = false := by
  induction fields with
  | nil => rfl
  | cons field rest inductionHypothesis =>
    obtain ⟨name, value⟩ := field
    simp only [someKeyOfFields, Bool.or_eq_false_iff] at plain
    obtain ⟨⟨-, plain_value⟩, plain_rest⟩ := plain
    by_cases same : name = key
    · simpa [get, same] using plain_value
    · simpa [get, same] using inductionHypothesis plain_rest

/-- A key of some kind in the items of an array is in one of them. -/
theorem someKeyOfItems_any (items : List Json) :
    someKeyOfItems named items = items.any (someKey named) := by
  induction items with
  | nil => rfl
  | cons item rest inductionHypothesis =>
    rw [someKeyOfItems, inductionHypothesis, List.any_cons]

/-- A key of some kind in the members of an object is that of one of them or in its value. -/
theorem someKeyOfFields_any (fields : List (String × Json)) :
    someKeyOfFields named fields =
      fields.any (fun field => named field.1 || someKey named field.2) := by
  induction fields with
  | nil => rfl
  | cons field rest inductionHypothesis =>
    rw [someKeyOfFields, inductionHypothesis, List.any_cons]

end Keys

end Json

namespace Host

/-- The task type with a name. -/
def DemoTask.ofText : String → Option DemoTask
  | "url_check" => some .urlCheck
  | "dedup" => some .dedup
  | "webpage_extraction" => some .webpageExtraction
  | "topic_classification" => some .topicClassification
  | "claim_extraction" => some .claimExtraction
  | _ => none

/-- Every task type has its name. -/
theorem DemoTask.ofText_eq_some (name : String) (task : DemoTask) :
    DemoTask.ofText name = some task ↔ name = task.taskType := by
  constructor
  · intro named
    unfold DemoTask.ofText at named
    split at named <;> cases named <;> rfl
  · rintro rfl
    cases task <;> rfl

end Host

namespace HostAdapter

open Host (DemoTask DemoSubmission)

/-- A request in its normal form. -/
structure NormalizedWorkUnitRequest where
  task : DemoTask
  inlineInput : JsonObject

/-- Substrings that make a key credential-like. -/
def credentialKeyFragments : List String :=
  ["api_key", "apikey", "oauth", "cookie", "credential", "provider_secret", "provider_token",
    "access_token", "refresh_token", "bearer"]

/-- Task types that are requests to a model. -/
def modelProxyTaskTypes : List String :=
  ["chat_completion", "chat_completions", "completion", "completions", "response", "responses",
    "model_proxy"]

/-- Keys that requests to a model have. -/
def modelProxyFieldKeys : List String :=
  ["messages", "model", "prompt", "temperature", "top_p", "max_tokens", "stream"]

/-- The key is credential-like. -/
def credentialKey (key : String) : Bool :=
  credentialKeyFragments.any (fun fragment =>
    Redaction.occursIn fragment.toList (Redaction.normalizedKey key))

/-- Refuse credential-like keys at any depth. -/
def rejectForbiddenHostInput (value : Json) : Except Raised Unit :=
  Store.ensure (Json.someKey credentialKey value = false)
    (.valueError ("HostAdapter input must not include credentials, OAuth, " ++
      "cookies, or provider secrets"))

/-- A member has a key of a request to a model. -/
def modelProxyShape (payload : JsonObject) : Bool :=
  payload.any (fun field =>
    modelProxyFieldKeys.any (fun key => key.toList = Redaction.normalizedKey field.1))

/-- Refuse requests to a model. -/
def rejectModelProxyShape (payload : JsonObject) : Except Raised Unit :=
  Store.ensure (modelProxyShape payload = false)
    (.valueError "HostAdapter submit creates Work Units; it is not a model proxy")

/-- A text without the blanks around it. -/
def strip (text : String) : String :=
  String.ofList ((text.toList.dropWhile Redaction.blank).reverse.dropWhile Redaction.blank).reverse

/-- The name of the task type of a request. -/
def normalizedTaskType (taskType : Option String) (payload : Json) : Except Raised String :=
  match taskType, payload with
  | some taskType, _ => .ok (strip taskType)
  | none, .obj fields =>
    match Json.get fields "task_type" with
    | .str text => .ok (strip text)
    | _ => .error (.valueError "task_type is required")
  | none, _ => .error (.valueError "task_type is required")

/-- The members that a payload gives a task type to read. -/
def coercePayloadDict (taskType : String) : Json → JsonObject
  | .obj payload =>
    match Json.get payload "inline_input" with
    | .obj inlineInput => Json.updated inlineInput (Json.without payload ["inline_input", "task_type"])
    | _ =>
      match Json.get payload "input" with
      | .obj inputPayload => Json.updated inputPayload (Json.without payload ["input", "task_type"])
      | _ => Json.without payload ["task_type", "wait"]
  | .arr items => if taskType = "dedup" then [("items", .arr items)] else []
  | _ => []

/-- A member that must be a text, and not empty. -/
def requiredString (payload : JsonObject) (key : String) : Except Raised String :=
  match (Json.get payload key).nonEmptyText with
  | some text => .ok text
  | none => .error (.valueError (key ++ " is required"))

/-- A member that may be left out, and is else a text that is not empty. -/
def optionalString (payload : JsonObject) (key : String) : Except Raised (Option String) :=
  match Json.get payload key with
  | .null => .ok none
  | value =>
    match value.nonEmptyText with
    | some text => .ok (some text)
    | none => .error (.valueError (key ++ " must be a non-empty string"))

/-- A member that may be left out, and is else an array of texts that are not empty. -/
def optionalStringList (payload : JsonObject) (key : String) :
    Except Raised (Option (List String)) :=
  let refused := .error (.valueError (key ++ " must be a JSON string array"))
  match Json.get payload key with
  | .null => .ok none
  | .arr items =>
    match Json.nonEmptyTexts items with
    | some texts => .ok (some texts)
    | none => refused
  | _ => refused

/-- An array of texts as the member of an object that may be left out. -/
def optionalTexts (key : String) (texts : Option (List String)) : JsonObject :=
  (texts.map (fun texts => (key, Json.arr (texts.map .str)))).toList

/-- What a task type reads of the members it is given. -/
def normalizeInlineInput (payload : JsonObject) : DemoTask → Except Raised JsonObject
  | .urlCheck => do
    let url ← requiredString payload "url"
    return [("url", .str url)]
  | .dedup =>
    match Json.get payload "items" with
    | .arr items => .ok [("items", .arr items)]
    | _ => .error (.valueError "dedup requires items as a JSON array")
  | .webpageExtraction => do
    let url ← requiredString payload "url"
    return ("url", .str url) :: ["html", "text", "title"].flatMap (fun key =>
      Host.optionalMember key (Json.get payload key).text?)
  | .topicClassification => do
    let text ← requiredString payload "text"
    let allowedLabels ← optionalStringList payload "allowed_labels"
    return ("text", .str text) :: optionalTexts "allowed_labels" allowedLabels
  | .claimExtraction => do
    let text ← requiredString payload "text"
    let sourceId := ((← optionalString payload "source_id").getD "src_claim_1")
    let entity ← optionalString payload "entity"
    let allowedClaimTypes ← optionalStringList payload "allowed_claim_types"
    return [("text", .str text), ("source_id", .str sourceId),
      ("sources", .arr [.obj [("source_id", .str sourceId), ("text", .str text)]])] ++
        Host.optionalMember "entity" entity ++ optionalTexts "allowed_claim_types" allowedClaimTypes

/-- Normalize a request. -/
def normalizeSubmitRequest (taskType : Option String) (payload : Json) :
    Except Raised NormalizedWorkUnitRequest := do
  let name ← normalizedTaskType taskType payload
  Store.ensure (name ∉ modelProxyTaskTypes)
    (.valueError "HostAdapter accepts Work Units, not model proxy requests")
  match DemoTask.ofText name with
  | none => .error (.valueError ("unsupported task_type: " ++ name))
  | some task =>
    let members := coercePayloadDict name payload
    rejectForbiddenHostInput (.obj members)
    rejectModelProxyShape members
    let inlineInput ← normalizeInlineInput members task
    return ⟨task, inlineInput⟩

/-! ## Work units of requests -/

/-- The work unit that routes are estimated for. -/
def estimateWorkUnit (request : NormalizedWorkUnitRequest) (now : String) : WorkUnit where
  workUnitId := "wu_estimate_" ++ request.task.taskType
  runId := "run_estimate_" ++ request.task.taskType
  taskType := request.task.taskType
  taskLevel := request.task.taskLevel
  status := .submitted
  dataLabels := ["public_url"]
  inlineInput := request.inlineInput
  maxCostMicros := some 0
  createdAt := now
  updatedAt := now

/-- The texts in an array, if all its items are texts. -/
def optionalStrList : Json → Option (List String)
  | .arr items => items.mapM Json.text?
  | _ => none

/-- The submission of a request. -/
def submitNormalizedRequest (runtime : PythonRuntime) (request : NormalizedWorkUnitRequest) :
    Except Raised DemoSubmission :=
  let inlineInput := request.inlineInput
  match request.task with
  | .urlCheck => do
    let url ← Json.item inlineInput "url"
    return .urlCheck (runtime.str url)
  | .dedup => do
    let items ← (← Json.item inlineInput "items").iterated
    return .dedup items
  | .webpageExtraction => do
    let url ← Json.item inlineInput "url"
    return .webpageExtraction (runtime.str url) (Json.get inlineInput "html").text?
      (Json.get inlineInput "text").text? (Json.get inlineInput "title").text?
  | .topicClassification => do
    let text ← Json.item inlineInput "text"
    return .topicClassification (runtime.str text)
      (optionalStrList (Json.get inlineInput "allowed_labels"))
  | .claimExtraction => do
    let text ← Json.item inlineInput "text"
    let sourceId ← Json.item inlineInput "source_id"
    return .claimExtraction (runtime.str text) (runtime.str sourceId)
      (Json.get inlineInput "entity").text?
      (optionalStrList (Json.get inlineInput "allowed_claim_types"))

end HostAdapter

end TokenBank
