import TokenBank.Guarantees.Estimates

/-!
# Two entries for work units

A host can submit a work unit to the endpoint or through its adapter. Either entry takes
each member that a task type reads as something, or refuses it; the work unit is made of
what is taken. They read the members from different places, they take a source id and an
entity differently, and only the adapter refuses keys that look like credentials or belong
to requests to a model. The entries agree on a payload exactly if none of this matters to it.
-/

namespace TokenBank

namespace Ingress

open Host (DemoTask DemoSubmission)

/-! ## What is taken -/

/-- What a member of a request is for. -/
inductive Kind : Type
  | requiredText
  | items
  | optionalText
  | entity
  | sourceId
  | texts (others : List String)

/-- A member that a task type reads. -/
structure Field where
  key : String
  kind : Kind

/-- The members that a task type reads. -/
def fieldsOf : DemoTask → List Field
  | .urlCheck => [⟨"url", .requiredText⟩]
  | .dedup => [⟨"items", .items⟩]
  | .webpageExtraction => [⟨"url", .requiredText⟩, ⟨"html", .optionalText⟩,
      ⟨"text", .optionalText⟩, ⟨"title", .optionalText⟩]
  | .topicClassification => [⟨"text", .requiredText⟩, ⟨"allowed_labels",
      .texts ["engineering", "finance", "policy", "science", "general"]⟩]
  | .claimExtraction => [⟨"text", .requiredText⟩, ⟨"source_id", .sourceId⟩, ⟨"entity", .entity⟩,
      ⟨"allowed_claim_types", .texts ["factual", "metric", "policy", "product", "other"]⟩]

/-- The texts that a value gives, if it is nothing or an array of texts. -/
def choices : Json → Option (Option (List String))
  | .null => some none
  | .arr items => (Json.nonEmptyTexts items).map some
  | _ => none

/-- What the endpoint takes a value as. -/
def endpointTakes : Kind → Json → Option Json
  | .requiredText, value => value.nonEmptyText.map .str
  | .items, .arr items => if BaseModel.itemsForbidden items then none else some (.arr items)
  | .items, _ => none
  | .optionalText, value => some (.optional value.text?)
  | .entity, value => some (.optional value.text?)
  | .sourceId, value => some (.str (value.nonEmptyText.getD "src_claim_1"))
  | .texts others, value => (choices value).map (fun given => Host.textsOr given others)

/-- What an adapter takes a value as: a source id or an entity that is given must be a text. -/
def adapterTakes : Kind → Json → Option Json
  | .entity, .null => some .null
  | .entity, value => value.nonEmptyText.map .str
  | .sourceId, .null => some (.str "src_claim_1")
  | .sourceId, value => value.nonEmptyText.map .str
  | kind, value => endpointTakes kind value

/-- A member that is left out if it is null. -/
def present (key : String) : Json → JsonObject
  | .null => []
  | value => [(key, value)]

/-- The input that is made of what is taken. -/
def assemble : DemoTask → List Json → JsonObject
  | .urlCheck, [url] => [("url", url)]
  | .dedup, [items] => [("items", items)]
  | .webpageExtraction, [url, html, text, title] =>
    ("url", url) :: present "html" html ++ present "text" text ++ present "title" title
  | .topicClassification, [text, labels] => [("text", text), ("allowed_labels", labels)]
  | .claimExtraction, [text, sourceId, entity, types] =>
    [("text", text), ("source_id", sourceId),
      ("sources", .arr [.obj [("source_id", sourceId), ("text", text)]]),
      ("allowed_claim_types", types)] ++ present "entity" entity
  | _, _ => []

/-- The input that is made of the members of a request, read and taken in some way. -/
def taken (takes : Kind → Json → Option Json) (read : String → Json) (task : DemoTask) :
    Option JsonObject :=
  ((fieldsOf task).mapM (fun field => takes field.kind (read field.key))).map (assemble task)

/-! ## What the entries make of a request -/

/-- What is computed, if no exception is raised. -/
def accepted {α : Type} : Except Raised α → Option α
  | .ok value => some value
  | .error _ => none

/-- A sequence of computations is accepted if its first one and the rest are. -/
theorem accepted_bind {α β : Type} (computed : Except Raised α) (rest : α → Except Raised β) :
    accepted (computed >>= rest) = (accepted computed).bind (fun value => accepted (rest value)) := by
  cases computed <;> rfl

/-- A value is accepted. -/
theorem accepted_pure {α : Type} (value : α) : accepted (pure value) = some value := rfl

/-- A result that is converted is accepted if it is. -/
theorem accepted_map {α β : Type} (convert : α → β) (computed : Except Raised α) :
    accepted (computed.map convert) = (accepted computed).map convert := by
  cases computed <;> rfl

/-- A text that may be left out is a member of an object or is left out. -/
theorem optionalMember_present (key : String) (text : Option String) :
    Host.optionalMember key text = present key (.optional text) := by
  cases text <;> rfl

/-- The keys of a work unit itself are not forbidden. -/
theorem workUnit_forbidden (submission : DemoSubmission) (stamp : Host.SubmissionStamp) :
    BaseModel.hasForbiddenKey (.obj (Host.demoWorkUnit submission stamp).modelDump) =
      BaseModel.fieldsForbidden submission.inlineInput := by
  have keys_allowed : ∀ key ∈ ["schema_version", "work_unit_id", "run_id", "task_type",
      "task_level", "status", "privacy_level", "data_labels", "input_refs", "inline_input",
      "output_schema_ref", "max_cost_micros", "deadline_ms", "created_at", "updated_at"],
      BaseModel.forbiddenKey key = false := by decide +kernel
  simp only [List.mem_cons, List.not_mem_nil, or_false, forall_eq_or_imp, forall_eq]
    at keys_allowed
  simp [WorkUnit.modelDump, Host.demoWorkUnit, BaseModel.hasForbiddenKey, schemaVersion,
    BaseModel.fieldsForbidden, BaseModel.itemsForbidden, keys_allowed, Json.optional, Json.nat]

/-- A work unit is created unless a key in its input is forbidden. -/
theorem createdInput_accepted (submission : DemoSubmission) (stamp : Host.SubmissionStamp) :
    accepted (Host.createdInput submission stamp) =
      if BaseModel.fieldsForbidden submission.inlineInput then none
      else some submission.inlineInput := by
  rw [Host.createdInput, BaseModel.rejectForbiddenKeys, workUnit_forbidden]
  cases BaseModel.fieldsForbidden submission.inlineInput <;> rfl

mutual
/-- A value has a forbidden key if one of its keys is forbidden. -/
theorem hasForbiddenKey_eq : ∀ value : Json,
    BaseModel.hasForbiddenKey value = Json.someKey BaseModel.forbiddenKey value
  | .obj fields => by
    rw [BaseModel.hasForbiddenKey, Json.someKey, fieldsForbidden_eq fields]
  | .arr items => by rw [BaseModel.hasForbiddenKey, Json.someKey, itemsForbidden_eq items]
  | .null => rfl
  | .bool _ => rfl
  | .int _ => rfl
  | .float _ => rfl
  | .str _ => rfl

/-- The items of an array have a forbidden key if one of their keys is forbidden. -/
theorem itemsForbidden_eq : ∀ items : List Json,
    BaseModel.itemsForbidden items = Json.someKeyOfItems BaseModel.forbiddenKey items
  | [] => rfl
  | item :: rest => by
    rw [BaseModel.itemsForbidden, Json.someKeyOfItems, hasForbiddenKey_eq item,
      itemsForbidden_eq rest]

/-- The members of an object have a forbidden key if one of their keys is forbidden. -/
theorem fieldsForbidden_eq : ∀ fields : List (String × Json),
    BaseModel.fieldsForbidden fields = Json.someKeyOfFields BaseModel.forbiddenKey fields
  | [] => rfl
  | (key, value) :: rest => by
    rw [BaseModel.fieldsForbidden, Json.someKeyOfFields, hasForbiddenKey_eq value,
      fieldsForbidden_eq rest]
end

/-- The keys that the inputs of work units have. -/
def inputKeys : List String :=
  ["url", "items", "html", "text", "title", "allowed_labels", "source_id", "sources",
    "allowed_claim_types", "entity"]

/-- The input of a submission has the keys of inputs and those of the items in it. -/
theorem someKey_inlineInput (named : String → Bool)
    (unnamed : ∀ key ∈ inputKeys, named key = false) (submission : DemoSubmission) :
    Json.someKeyOfFields named submission.inlineInput =
      match submission with
      | .dedup items => Json.someKeyOfItems named items
      | _ => false := by
  simp only [inputKeys, List.mem_cons, List.not_mem_nil, or_false, forall_eq_or_imp, forall_eq]
    at unnamed
  cases submission with
  | urlCheck url =>
    simp [DemoSubmission.inlineInput, Json.someKeyOfFields, Json.someKey, unnamed]
  | dedup items =>
    simp [DemoSubmission.inlineInput, Json.someKeyOfFields, Json.someKey, unnamed]
  | webpageExtraction url html text title =>
    cases html <;> cases text <;> cases title <;>
      simp [DemoSubmission.inlineInput, Json.someKeyOfFields, Json.someKey, Host.optionalMember,
        unnamed]
  | topicClassification text allowedLabels =>
    simp only [DemoSubmission.inlineInput, Json.someKeyOfFields, Json.someKey, Host.textsOr,
      Json.someKeyOfItems_texts, unnamed, Bool.or_false]
  | claimExtraction text sourceId entity allowedClaimTypes =>
    cases entity <;>
      simp only [DemoSubmission.inlineInput, Json.someKeyOfFields, Json.someKey,
        Json.someKeyOfItems, Host.textsOr, Json.someKeyOfItems_texts, Host.optionalMember, unnamed,
        Bool.or_false, Option.map_none, Option.map_some, Option.toList_none, Option.toList_some,
        List.append_nil, List.cons_append, List.nil_append]

/-- No key that the inputs of work units have is forbidden or credential-like. -/
theorem inputKeys_plain : (∀ key ∈ inputKeys, BaseModel.forbiddenKey key = false) ∧
    ∀ key ∈ inputKeys, HostAdapter.credentialKey key = false := by decide +kernel

/-- A work unit is created unless it has items with a forbidden key. -/
theorem created (submission : DemoSubmission) (stamp : Host.SubmissionStamp) :
    accepted (Host.createdInput submission stamp) =
      match submission with
      | .dedup items =>
        if BaseModel.itemsForbidden items then none else some [("items", .arr items)]
      | other => some other.inlineInput := by
  rw [createdInput_accepted, fieldsForbidden_eq, someKey_inlineInput _ inputKeys_plain.1]
  cases submission with
  | dedup items => simp only [itemsForbidden_eq, DemoSubmission.inlineInput]
  | _ => rfl

/-- The endpoint reads choices of a member. -/
theorem endpoint_choices (payload : JsonObject) (key message : String) :
    accepted (HostEndpoint.optionalTexts payload key message) =
      choices (HostEndpoint.reading payload key) := by
  unfold HostEndpoint.optionalTexts
  cases HostEndpoint.reading payload key with
  | arr items =>
    simp only [choices]
    cases Json.nonEmptyTexts items <;> rfl
  | _ => rfl

/-- The endpoint reads a text of a member. -/
theorem endpoint_text (payload : JsonObject) (key message : String) :
    accepted (HostEndpoint.requiredText payload key message) =
      (HostEndpoint.reading payload key).nonEmptyText := by
  unfold HostEndpoint.requiredText
  cases (HostEndpoint.reading payload key).nonEmptyText <;> rfl

/-- The endpoint creates a work unit of what it takes of the members that it reads. -/
theorem endpoint_takes (stamp : Host.SubmissionStamp) (payload : JsonObject) (task : DemoTask) :
    accepted (HostEndpoint.submission payload task >>= fun asked =>
        Host.createdInput asked stamp) =
      taken endpointTakes (HostEndpoint.reading payload) task := by
  rw [accepted_bind]
  cases task with
  | urlCheck =>
    simp only [HostEndpoint.submission, accepted_bind, endpoint_text, taken, fieldsOf,
      List.mapM_cons, List.mapM_nil, endpointTakes]
    cases (HostEndpoint.reading payload "url").nonEmptyText with
    | none => rfl
    | some url =>
      simp only [Option.map_some, Option.bind_some, Option.bind_eq_bind, Option.pure_def,
        accepted_pure, created, assemble, DemoSubmission.inlineInput]
  | dedup =>
    simp only [HostEndpoint.submission, taken, fieldsOf, List.mapM_cons, List.mapM_nil]
    cases HostEndpoint.reading payload "items" with
    | arr items =>
      have same_submission : accepted (Except.ok (DemoSubmission.dedup items)) =
        some (.dedup items) := rfl
      simp only [same_submission, Option.bind_some, created, endpointTakes]
      cases BaseModel.itemsForbidden items <;> rfl
    | _ => rfl
  | webpageExtraction =>
    simp only [HostEndpoint.submission, accepted_bind, endpoint_text, taken, fieldsOf,
      List.mapM_cons, List.mapM_nil, endpointTakes]
    cases (HostEndpoint.reading payload "url").nonEmptyText with
    | none => rfl
    | some url =>
      simp only [Option.map_some, Option.bind_some, Option.bind_eq_bind, Option.pure_def,
        accepted_pure, created, assemble, DemoSubmission.inlineInput, optionalMember_present]
  | topicClassification =>
    simp only [HostEndpoint.submission, accepted_bind, endpoint_text, endpoint_choices, taken,
      fieldsOf, List.mapM_cons, List.mapM_nil, endpointTakes]
    cases (HostEndpoint.reading payload "text").nonEmptyText with
    | none => rfl
    | some text =>
      cases choices (HostEndpoint.reading payload "allowed_labels") with
      | none => rfl
      | some labels =>
        simp only [Option.map_some, Option.bind_some, Option.bind_eq_bind, Option.pure_def,
          accepted_pure, created, assemble, DemoSubmission.inlineInput]
  | claimExtraction =>
    simp only [HostEndpoint.submission, accepted_bind, endpoint_text, endpoint_choices, taken,
      fieldsOf, List.mapM_cons, List.mapM_nil, endpointTakes]
    cases (HostEndpoint.reading payload "text").nonEmptyText with
    | none => rfl
    | some text =>
      cases choices (HostEndpoint.reading payload "allowed_claim_types") with
      | none => rfl
      | some types =>
        simp only [Option.map_some, Option.bind_some, Option.bind_eq_bind, Option.pure_def,
          accepted_pure, created, assemble, DemoSubmission.inlineInput, optionalMember_present]

/-- An adapter reads choices of a member. -/
theorem adapter_choices (members : JsonObject) (key : String) :
    accepted (HostAdapter.optionalStringList members key) = choices (Json.get members key) := by
  unfold HostAdapter.optionalStringList
  cases Json.get members key with
  | arr items =>
    simp only [choices]
    cases Json.nonEmptyTexts items <;> rfl
  | _ => rfl

/-- An adapter reads a text of a member. -/
theorem adapter_text (members : JsonObject) (key : String) :
    accepted (HostAdapter.requiredString members key) =
      (Json.get members key).nonEmptyText := by
  unfold HostAdapter.requiredString
  cases (Json.get members key).nonEmptyText <;> rfl

/-- An adapter reads a text that may be left out. -/
theorem adapter_optional (members : JsonObject) (key : String) :
    (accepted (HostAdapter.optionalString members key)).map Json.optional =
        adapterTakes .entity (Json.get members key) ∧
      (accepted (HostAdapter.optionalString members key)).map (fun text =>
          Json.str (text.getD "src_claim_1")) = adapterTakes .sourceId (Json.get members key) := by
  unfold HostAdapter.optionalString
  cases Json.get members key with
  | str text => by_cases empty : text = "" <;> simp [Json.nonEmptyText, empty, adapterTakes,
      accepted, Json.optional]
  | _ => exact ⟨rfl, rfl⟩

/-- An adapter creates a work unit of what it takes of the members that it is given. -/
theorem adapter_takes (stamp : Host.SubmissionStamp) (members : JsonObject) (task : DemoTask) :
    accepted (HostAdapter.normalizedSubmission members task >>= fun asked =>
        Host.createdInput asked stamp) =
      taken adapterTakes (Json.get members) task := by
  rw [accepted_bind]
  cases task with
  | urlCheck =>
    simp only [HostAdapter.normalizedSubmission, accepted_map, adapter_text, taken, fieldsOf,
      List.mapM_cons, List.mapM_nil, adapterTakes, endpointTakes]
    cases (Json.get members "url").nonEmptyText with
    | none => rfl
    | some url =>
      simp only [Option.map_some, Option.bind_some, Option.bind_eq_bind, Option.pure_def,
        created, assemble, DemoSubmission.inlineInput]
  | dedup =>
    simp only [HostAdapter.normalizedSubmission, taken, fieldsOf, List.mapM_cons, List.mapM_nil]
    cases Json.get members "items" with
    | arr items =>
      have same_submission : accepted (Except.ok (DemoSubmission.dedup items)) =
        some (.dedup items) := rfl
      simp only [same_submission, Option.bind_some, created, adapterTakes, endpointTakes]
      cases BaseModel.itemsForbidden items <;> rfl
    | _ => rfl
  | webpageExtraction =>
    simp only [HostAdapter.normalizedSubmission, accepted_map, adapter_text, taken, fieldsOf,
      List.mapM_cons, List.mapM_nil, adapterTakes, endpointTakes]
    cases (Json.get members "url").nonEmptyText with
    | none => rfl
    | some url =>
      simp only [Option.map_some, Option.bind_some, Option.bind_eq_bind, Option.pure_def,
        created, assemble, DemoSubmission.inlineInput, optionalMember_present]
  | topicClassification =>
    simp only [HostAdapter.normalizedSubmission, accepted_bind, adapter_text, adapter_choices,
      taken, fieldsOf, List.mapM_cons, List.mapM_nil, adapterTakes, endpointTakes]
    cases (Json.get members "text").nonEmptyText with
    | none => rfl
    | some text =>
      cases choices (Json.get members "allowed_labels") with
      | none => rfl
      | some labels =>
        simp only [Option.map_some, Option.bind_some, Option.bind_eq_bind, Option.pure_def,
          accepted_pure, created, assemble, DemoSubmission.inlineInput]
  | claimExtraction =>
    simp only [HostAdapter.normalizedSubmission, accepted_bind, adapter_text, adapter_choices,
      taken, fieldsOf, List.mapM_cons, List.mapM_nil, ← (adapter_optional members "source_id").2,
      ← (adapter_optional members "entity").1]
    simp only [adapterTakes, endpointTakes]
    cases (Json.get members "text").nonEmptyText with
    | none => rfl
    | some text =>
      cases accepted (HostAdapter.optionalString members "source_id") with
      | none => rfl
      | some sourceId =>
        cases accepted (HostAdapter.optionalString members "entity") with
        | none => rfl
        | some entity =>
          cases choices (Json.get members "allowed_claim_types") with
          | none => rfl
          | some types =>
            simp only [Option.map_some, Option.bind_some, Option.bind_eq_bind, Option.pure_def,
              accepted_pure, created, assemble, DemoSubmission.inlineInput, optionalMember_present]

/-! ## Agreement member by member -/

/-- Something is refused exactly if one item is. -/
theorem mapM_none_iff {α β : Type} (take : α → Option β) (items : List α) :
    items.mapM take = none ↔ ∃ item ∈ items, take item = none := by
  induction items with
  | nil => simp
  | cons item rest inductionHypothesis =>
    rw [List.mapM_cons]
    cases taken_item : take item with
    | none => simp [taken_item]
    | some value =>
      cases taken_rest : rest.mapM take with
      | none => simpa [taken_item] using inductionHypothesis.mp taken_rest
      | some values => simpa [taken_item, taken_rest] using inductionHypothesis

/-- As much is taken as there are items. -/
theorem mapM_length {α β : Type} (take : α → Option β) (items : List α) (values : List β)
    (taken_all : items.mapM take = some values) : values.length = items.length := by
  induction items generalizing values with
  | nil =>
    have nothing_taken := Option.some.inj taken_all
    subst nothing_taken
    rfl
  | cons item rest inductionHypothesis =>
    simp only [List.mapM_cons, Option.bind_eq_bind, Option.bind_eq_some_iff] at taken_all
    obtain ⟨value, -, others, taken_rest, returned⟩ := taken_all
    rw [← Option.some.inj returned, List.length_cons, List.length_cons,
      inductionHypothesis others taken_rest]

/-- The same is taken in two ways exactly if it is of each item, or if either way refuses
one. -/
theorem mapM_eq_iff {α β : Type} (take other : α → Option β) (items : List α) :
    items.mapM take = items.mapM other ↔
      (∀ item ∈ items, take item = other item) ∨
        ((∃ item ∈ items, take item = none) ∧ ∃ item ∈ items, other item = none) := by
  rw [← mapM_none_iff, ← mapM_none_iff]
  constructor
  · intro same
    cases taken_all : items.mapM take with
    | none => exact .inr ⟨rfl, same ▸ taken_all⟩
    | some values =>
      left
      rw [taken_all] at same
      induction items generalizing values with
      | nil => simp
      | cons head rest inductionHypothesis =>
        simp only [List.mapM_cons, Option.bind_eq_bind, Option.bind_eq_some_iff] at taken_all
        obtain ⟨value, taken_head, others, taken_rest, returned⟩ := taken_all
        have same_others := same.symm
        simp only [List.mapM_cons, Option.bind_eq_bind, Option.bind_eq_some_iff] at same_others
        obtain ⟨value', other_head, others', other_rest, other_returned⟩ := same_others
        obtain ⟨rfl, rfl⟩ := List.cons.inj
          ((Option.some.inj returned).trans (Option.some.inj other_returned).symm)
        intro item member
        rcases List.mem_cons.mp member with rfl | inRest
        · rw [taken_head, other_head]
        · exact inductionHypothesis others other_rest.symm taken_rest item inRest
  · rintro (same | ⟨refused, other_refused⟩)
    · induction items with
      | nil => rfl
      | cons head rest inductionHypothesis =>
        rw [List.mapM_cons, List.mapM_cons, same head List.mem_cons_self,
          inductionHypothesis (fun item member => same item (List.mem_cons_of_mem head member))]
    · rw [refused, other_refused]

/-- What was taken can be read from the input that is made of it. -/
theorem assemble_read (task : DemoTask) (values : List Json)
    (complete : values.length = (fieldsOf task).length) :
    (fieldsOf task).map (fun field => Json.get (assemble task values) field.key) = values := by
  have present_cases (key : String) (value : Json) :
      (value = .null ∧ present key value = []) ∨ present key value = [(key, value)] := by
    cases value <;> simp [present]
  have four_values (four : values.length = 4) :
      ∃ first second third fourth, values = [first, second, third, fourth] := by
    rcases values with _ | ⟨first, _ | ⟨second, _ | ⟨third, _ | ⟨fourth, _ | _⟩⟩⟩⟩ <;>
      simp at four ⊢
  cases task with
  | urlCheck =>
    obtain ⟨url, rfl⟩ := List.length_eq_one_iff.mp complete
    simp [fieldsOf, assemble, Json.get]
  | dedup =>
    obtain ⟨items, rfl⟩ := List.length_eq_one_iff.mp complete
    simp [fieldsOf, assemble, Json.get]
  | webpageExtraction =>
    obtain ⟨url, html, text, title, rfl⟩ := four_values complete
    rcases present_cases "html" html with ⟨rfl, no_html⟩ | html_given <;>
      rcases present_cases "text" text with ⟨rfl, no_text⟩ | text_given <;>
        rcases present_cases "title" title with ⟨rfl, no_title⟩ | title_given <;>
          simp [fieldsOf, assemble, Json.get, *]
  | topicClassification =>
    obtain ⟨text, labels, rfl⟩ := List.length_eq_two.mp complete
    simp [fieldsOf, assemble, Json.get]
  | claimExtraction =>
    obtain ⟨text, sourceId, entity, types, rfl⟩ := four_values complete
    rcases present_cases "entity" entity with ⟨rfl, no_entity⟩ | entity_given <;>
      simp [fieldsOf, assemble, Json.get, *]

/-- Two inputs are the same exactly if the same was taken for both. -/
theorem taken_eq_iff (takes otherTakes : Kind → Json → Option Json) (read otherRead : String → Json)
    (task : DemoTask) :
    taken takes read task = taken otherTakes otherRead task ↔
      (∀ field ∈ fieldsOf task,
          takes field.kind (read field.key) = otherTakes field.kind (otherRead field.key)) ∨
        ((∃ field ∈ fieldsOf task, takes field.kind (read field.key) = none) ∧
          ∃ field ∈ fieldsOf task, otherTakes field.kind (otherRead field.key) = none) := by
  rw [← mapM_eq_iff, taken, taken]
  constructor
  · intro same
    cases left : (fieldsOf task).mapM (fun field => takes field.kind (read field.key)) with
    | none =>
      rw [left, Option.map_none] at same
      exact (Option.map_eq_none_iff.mp same.symm).symm
    | some values =>
      rw [left, Option.map_some] at same
      obtain ⟨others, right, same_input⟩ := Option.map_eq_some_iff.mp same.symm
      rw [right, ← assemble_read task values (mapM_length _ _ _ left),
        ← assemble_read task others (mapM_length _ _ _ right), same_input]
  · intro same
    rw [same]

/-! ## Payloads -/

/-- A payload with its task type, as the body of a request. -/
def withTaskType (task : DemoTask) : Json → Json
  | .obj payload => .obj (("task_type", .str task.taskType) :: Json.without payload ["task_type"])
  | payload => payload

/-- The input of the work unit that the endpoint creates of a payload, if it creates one. -/
def endpointInput (stamp : Host.SubmissionStamp) (task : DemoTask) (payload : Json) :
    Option JsonObject :=
  match HostEndpoint.submitWorkUnit stamp (withTaskType task payload) with
  | .ok (.submitted input) => some input
  | _ => none

/-- The input of the work unit that an adapter creates of a payload, if it creates one. -/
def adapterInput (runtime : PythonRuntime) (stamp : Host.SubmissionStamp) (task : DemoTask)
    (payload : Json) : Option JsonObject :=
  accepted (HostAdapter.submitWorkUnit runtime stamp (some task.taskType) payload)

/-- The adapter refuses the keys of the members that a payload gives it. -/
def screened (members : JsonObject) : Bool :=
  Json.someKey HostAdapter.credentialKey (.obj members) || HostAdapter.modelProxyShape members

/-- What the endpoint reads of a payload is taken as what an adapter reads of it, or either
refuses a member of it. -/
def ReadAlike (task : DemoTask) : Json → Prop
  | .obj payload =>
    let members := HostAdapter.coercePayloadDict task.taskType (.obj payload)
    let endpointRefuses := ∃ field ∈ fieldsOf task,
      endpointTakes field.kind (HostEndpoint.reading payload field.key) = none
    if screened members then endpointRefuses
    else
      (∀ field ∈ fieldsOf task,
        endpointTakes field.kind (HostEndpoint.reading payload field.key) =
          adapterTakes field.kind (Json.get members field.key)) ∨
      (endpointRefuses ∧
        ∃ field ∈ fieldsOf task, adapterTakes field.kind (Json.get members field.key) = none)
  | .arr items =>
    task = .dedup → screened [("items", .arr items)] = true ∨ BaseModel.itemsForbidden items = true
  | _ => True

/-- A member that is kept is read as before. -/
theorem get_without (fields : JsonObject) (keys : List String) (key : String)
    (kept : key ∉ keys) : Json.get (Json.without fields keys) key = Json.get fields key := by
  rw [Json.get, Json.get, Json.without, List.find?_filter]
  congr 3
  funext field
  by_cases same : field.1 = key
  · simp [same, kept]
  · simp [same]

/-- The task type of a body does not change how its other members are read. -/
theorem reading_withTaskType (task : DemoTask) (payload : JsonObject) (key : String)
    (other : key ≠ "task_type") :
    HostEndpoint.reading (("task_type", .str task.taskType) ::
      Json.without payload ["task_type"]) key = HostEndpoint.reading payload key := by
  have same_member (asked : String) (differs : asked ≠ "task_type") :
      Json.get (("task_type", Json.str task.taskType) :: Json.without payload ["task_type"]) asked =
        Json.get payload asked := by
    rw [← get_without payload ["task_type"] asked (by simpa using differs)]
    simp [Json.get, differs.symm]
  rw [HostEndpoint.reading, HostEndpoint.reading, HostEndpoint.nestedInput,
    HostEndpoint.nestedInput, same_member key other, same_member "inline_input" (by decide)]

/-- No member that a task type reads is the task type. -/
theorem fieldsOf_keys (task : DemoTask) : ∀ field ∈ fieldsOf task, field.key ≠ "task_type" := by
  cases task <;> simp [fieldsOf]

/-- What is read alike is taken alike. -/
theorem taken_congr (takes : Kind → Json → Option Json) (read other : String → Json)
    (task : DemoTask) (alike : ∀ field ∈ fieldsOf task, read field.key = other field.key) :
    taken takes read task = taken takes other task := by
  rw [taken_eq_iff]
  left
  intro field member
  rw [alike field member]

/-- What the endpoint creates of an object. -/
theorem endpointInput_obj (stamp : Host.SubmissionStamp) (task : DemoTask) (payload : JsonObject) :
    endpointInput stamp task (.obj payload) =
      taken endpointTakes (HostEndpoint.reading payload) task := by
  rw [← taken_congr endpointTakes _ _ task (fun field member =>
    reading_withTaskType task payload field.key (fieldsOf_keys task field member)),
    ← endpoint_takes stamp]
  have task_read : Json.get (("task_type", Json.str task.taskType) ::
      Json.without payload ["task_type"]) "task_type" = .str task.taskType := by simp [Json.get]
  have task_named := (Host.DemoTask.ofText_eq_some task.taskType task).mpr rfl
  rw [endpointInput, withTaskType, HostEndpoint.submitWorkUnit]
  simp only [task_read, task_named]
  cases HostEndpoint.submission (("task_type", Json.str task.taskType) ::
      Json.without payload ["task_type"]) task with
  | error raised => rfl
  | ok asked =>
    simp only [bind, Except.bind]
    cases Host.createdInput asked stamp <;> rfl

/-- What an adapter creates of a payload. -/
theorem adapterInput_eq (runtime : PythonRuntime) (stamp : Host.SubmissionStamp) (task : DemoTask)
    (payload : Json) :
    adapterInput runtime stamp task payload =
      if screened (HostAdapter.coercePayloadDict task.taskType payload) then none
      else accepted (HostAdapter.normalizedSubmission
        (HostAdapter.coercePayloadDict task.taskType payload) task >>= fun asked =>
          Host.createdInput asked stamp) := by
  have task_stripped : HostAdapter.strip task.taskType = task.taskType := by
    cases task <;> decide +kernel
  have task_accepted : task.taskType ∉ HostAdapter.modelProxyTaskTypes := by
    cases task <;> decide
  have task_named := (Host.DemoTask.ofText_eq_some task.taskType task).mpr rfl
  rw [adapterInput, HostAdapter.submitWorkUnit, HostAdapter.normalizeSubmitRequest]
  simp only [HostAdapter.normalizedTaskType, task_stripped, task_named,
    HostAdapter.rejectForbiddenHostInput, HostAdapter.rejectModelProxyShape, screened,
    HostAdapter.normalizeInlineInput_eq, Store.ensure, task_accepted, not_false_eq_true, if_true,
    bind, Except.bind]
  generalize HostAdapter.coercePayloadDict task.taskType payload = members
  rcases Bool.eq_false_or_eq_true (Json.someKey HostAdapter.credentialKey (.obj members)) with
    credentials | plain
  · simp [credentials, accepted]
  · rcases Bool.eq_false_or_eq_true (HostAdapter.modelProxyShape members) with
      proxied | unproxied
    · simp [plain, proxied, accepted]
    · cases normalized : HostAdapter.normalizedSubmission members task with
      | error raised => simp [plain, unproxied, accepted, Except.map]
      | ok asked =>
        have same_task := HostAdapter.normalizedSubmission_task members task asked normalized
        have submitted := HostAdapter.submitNormalizedRequest_analyzed runtime asked
        rw [same_task] at submitted
        simp [plain, unproxied, Except.map, pure, Except.pure, submitted]

/-- An exception is raised or a result is accepted. -/
theorem accepted_some_iff {α : Type} (computed : Except Raised α) (value : α) :
    accepted computed = some value ↔ computed = .ok value := by
  cases computed <;> simp [accepted]

/-- What an adapter creates has no credential-like key. -/
theorem adapterInput_plain (runtime : PythonRuntime) (stamp : Host.SubmissionStamp)
    (task : DemoTask) (payload : Json) (input : JsonObject)
    (submitted : adapterInput runtime stamp task payload = some input) :
    Json.someKey HostAdapter.credentialKey (.obj input) = false := by
  rw [adapterInput_eq] at submitted
  split at submitted
  · cases submitted
  · rename_i unscreened
    generalize HostAdapter.coercePayloadDict task.taskType payload = members
      at submitted unscreened
    rw [accepted_bind] at submitted
    obtain ⟨asked, normalized, input_created⟩ := Option.bind_eq_some_iff.mp submitted
    rw [created] at input_created
    have plain := someKey_inlineInput HostAdapter.credentialKey inputKeys_plain.2 asked
    cases asked with
    | dedup items =>
      rw [accepted_some_iff] at normalized
      have same_task := HostAdapter.normalizedSubmission_task members task _ normalized
      subst same_task
      have plain_members : Json.someKeyOfFields HostAdapter.credentialKey members = false := by
        simp only [screened, Json.someKey, Bool.or_eq_true, not_or, Bool.not_eq_true]
          at unscreened
        exact unscreened.1
      have plain_items := Json.someKey_get HostAdapter.credentialKey members "items" plain_members
      simp only [HostAdapter.normalizedSubmission, DemoSubmission.task] at normalized
      cases member : Json.get members "items" with
      | arr others =>
        rw [member] at normalized plain_items
        obtain rfl := DemoSubmission.dedup.inj (Except.ok.inj normalized)
        simp only at input_created
        split at input_created
        · cases input_created
        · rw [← Option.some.inj input_created, Json.someKey]
          rw [Json.someKey] at plain_items
          exact plain.trans plain_items
      | _ => simp [member] at normalized
    | _ =>
      rw [← Option.some.inj input_created]
      exact plain

/-- A payload that gives no members is refused. -/
theorem nothing_taken (task : DemoTask) :
    ∃ field ∈ fieldsOf task, adapterTakes field.kind (Json.get [] field.key) = none := by
  cases task <;> exact ⟨_, List.mem_cons_self, rfl⟩

/-- What an adapter creates of members that nothing refuses. -/
theorem adapterInput_taken (runtime : PythonRuntime) (stamp : Host.SubmissionStamp)
    (task : DemoTask) (payload : Json) :
    adapterInput runtime stamp task payload =
      if screened (HostAdapter.coercePayloadDict task.taskType payload) then none
      else taken adapterTakes
        (Json.get (HostAdapter.coercePayloadDict task.taskType payload)) task := by
  rw [adapterInput_eq, adapter_takes]

/-- Nothing is taken exactly if a member is refused. -/
theorem taken_none_iff (takes : Kind → Json → Option Json) (read : String → Json)
    (task : DemoTask) :
    taken takes read task = none ↔
      ∃ field ∈ fieldsOf task, takes field.kind (read field.key) = none := by
  rw [taken, Option.map_eq_none_iff, mapM_none_iff]

/-- An adapter that is given no members creates nothing. -/
theorem adapterInput_none (runtime : PythonRuntime) (stamp : Host.SubmissionStamp)
    (task : DemoTask) (payload : Json)
    (nothing : HostAdapter.coercePayloadDict task.taskType payload = []) :
    adapterInput runtime stamp task payload = none := by
  rw [adapterInput_taken, nothing, (taken_none_iff _ _ _).mpr (nothing_taken task)]
  split <;> rfl

end Ingress

open Ingress in
/-- The endpoint and an adapter both refuse a payload, or both create a work unit with one
input, which has no credential-like key, exactly if what they read of the payload is taken
alike. -/
theorem entries_agree_iff (runtime : PythonRuntime) (stamp : Host.SubmissionStamp)
    (task : Host.DemoTask) (payload : Json) :
    (endpointInput stamp task payload = adapterInput runtime stamp task payload ∧
        ∀ input, (endpointInput stamp task payload = some input ∨
            adapterInput runtime stamp task payload = some input) →
          Json.someKey HostAdapter.credentialKey (.obj input) = false) ↔
      ReadAlike task payload := by
  have plain_iff : (endpointInput stamp task payload = adapterInput runtime stamp task payload ∧
      ∀ input, (endpointInput stamp task payload = some input ∨
          adapterInput runtime stamp task payload = some input) →
        Json.someKey HostAdapter.credentialKey (.obj input) = false) ↔
        endpointInput stamp task payload = adapterInput runtime stamp task payload := by
    refine ⟨fun agreed => agreed.1, fun same => ⟨same, fun input submitted => ?_⟩⟩
    rw [same, or_self] at submitted
    exact adapterInput_plain runtime stamp task payload input submitted
  rw [plain_iff]
  cases payload with
  | obj payload =>
    rw [endpointInput_obj, adapterInput_taken, ReadAlike]
    split
    · rw [taken_none_iff]
    · rw [taken_eq_iff]
  | arr items =>
    have refused : endpointInput stamp task (.arr items) = none := rfl
    rw [refused, ReadAlike]
    by_cases dedup : task = .dedup
    · subst dedup
      have members_given : HostAdapter.coercePayloadDict Host.DemoTask.dedup.taskType
          (.arr items) = [("items", .arr items)] := rfl
      rw [adapterInput_taken, members_given]
      rcases Bool.eq_false_or_eq_true (screened [("items", .arr items)]) with
        refused_keys | plain_keys
      · simp [refused_keys]
      · rw [plain_keys, if_neg Bool.false_ne_true, eq_comm, taken_none_iff]
        simp [fieldsOf, adapterTakes, endpointTakes, Json.get]
    · rw [adapterInput_none runtime stamp task (.arr items)]
      · simp [dedup]
      · cases task <;> first | rfl | exact absurd rfl dedup
  | _ =>
    rw [adapterInput_none runtime stamp task _ rfl]
    exact ⟨fun _ => trivial, fun _ => rfl⟩

namespace Ingress

/-- The endpoint creates a work unit with a credential-like key in one of its items, which an
adapter refuses. -/
theorem endpoint_creates_credentials :
    ¬ ∀ (runtime : PythonRuntime) (stamp : Host.SubmissionStamp) (task : Host.DemoTask)
        (payload : Json),
        endpointInput stamp task payload = adapterInput runtime stamp task payload ∧
          ∀ input, (endpointInput stamp task payload = some input ∨
              adapterInput runtime stamp task payload = some input) →
            Json.someKey HostAdapter.credentialKey (.obj input) = false := by
  intro agreed
  have plain := (agreed Rescoring.plainRuntime HostAdapter.plainStamp .dedup
    (.obj [("items", .arr [.obj [("access_token", .str "x")]])])).2
      [("items", .arr [.obj [("access_token", .str "x")]])] (.inl rfl)
  exact absurd plain (by decide +kernel)

end Ingress

end TokenBank
