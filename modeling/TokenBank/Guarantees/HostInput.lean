import TokenBank.Core.Remains
import TokenBank.Guarantees.Ingress

/-!
# Host input without credentials

The members of a request are put together from up to two objects, searched for credential-like keys
at any depth, and read by the task type. What is read is a text, an array of texts or the array of
items as it was searched, under a key of the task type. So the input of an accepted request has no
credential-like key anywhere.
-/

namespace TokenBank

namespace Json

/-- A value has a key, at any depth. -/
inductive HasKey (key : String) : Json → Prop
  | here (value : Json) (fields : JsonObject) (listed : (key, value) ∈ fields) : HasKey key (.obj fields)
  | member (name : String) (value : Json) (fields : JsonObject) (listed : (name, value) ∈ fields)
      (within : HasKey key value) : HasKey key (.obj fields)
  | item (value : Json) (items : List Json) (listed : value ∈ items) (within : HasKey key value) :
      HasKey key (.arr items)

/-- A value has a key of some kind if it has the key at some depth. -/
theorem someKey_of_hasKey (named : String → Bool) (key : String) (kind : named key = true)
    (value : Json) (has : HasKey key value) : someKey named value = true := by
  induction has with
  | here value fields listed =>
    rw [someKey, someKeyOfFields_any, List.any_eq_true]
    exact ⟨_, listed, by rw [kind, Bool.true_or]⟩
  | member name value fields listed within inductionHypothesis =>
    rw [someKey, someKeyOfFields_any, List.any_eq_true]
    exact ⟨_, listed, by rw [inductionHypothesis, Bool.or_true]⟩
  | item value items listed within inductionHypothesis =>
    rw [someKey, someKeyOfItems_any, List.any_eq_true]
    exact ⟨_, listed, inductionHypothesis⟩

end Json

namespace HostAdapter

open Host (DemoTask)

/-- The keys that the input of a task type may have. -/
def definedKeys : DemoTask → List String
  | .urlCheck => ["url"]
  | .dedup => ["items"]
  | .webpageExtraction => ["url", "html", "text", "title"]
  | .topicClassification => ["text", "allowed_labels"]
  | .claimExtraction => ["text", "source_id", "sources", "entity", "allowed_claim_types"]

/-- Members are under keys of a task type, and there is no credential-like key in their values. -/
def Clean (task : DemoTask) (inlineInput : JsonObject) : Prop :=
  ∀ field ∈ inlineInput, field.1 ∈ definedKeys task ∧ Json.someKey credentialKey field.2 = false

/-- The keys of task types are not credential-like. -/
theorem definedKeys_plain (task : DemoTask) :
    ∀ key ∈ definedKeys task, credentialKey key = false := by
  cases task <;> decide

/-- Clean members have no credential-like key. -/
theorem Clean.plain {task : DemoTask} {inlineInput : JsonObject} (clean : Clean task inlineInput) :
    Json.someKey credentialKey (.obj inlineInput) = false := by
  rw [Json.someKey, Json.someKeyOfFields_any, List.any_eq_false]
  intro field listed
  obtain ⟨defined, value⟩ := clean field listed
  simp [definedKeys_plain task field.1 defined, value]

/-- What a task type reads of members without credential-like keys is clean. -/
theorem normalizeInlineInput_clean (payload inlineInput : JsonObject) (task : DemoTask)
    (plain : Json.someKeyOfFields credentialKey payload = false)
    (read : normalizeInlineInput payload task = .ok inlineInput) : Clean task inlineInput := by
  cases task with
  | urlCheck =>
    obtain ⟨url, -, returned⟩ := (Store.bind_ok_iff _ _ _).mp read
    cases returned
    simp [Clean, definedKeys, Json.someKey]
  | dedup =>
    have scanned := Json.someKey_get credentialKey payload "items" plain
    rw [normalizeInlineInput] at read
    split at read
    · rename_i items given
      cases read
      rw [given] at scanned
      simp [Clean, definedKeys, scanned]
    · cases read
  | webpageExtraction =>
    obtain ⟨url, -, returned⟩ := (Store.bind_ok_iff _ _ _).mp read
    cases returned
    intro field listed
    rcases List.mem_cons.mp listed with rfl | listed
    · exact ⟨List.mem_cons_self, rfl⟩
    · obtain ⟨key, known, member⟩ := List.mem_flatMap.mp listed
      simp only [Host.optionalMember, Option.mem_toList, Option.map_eq_some_iff] at member
      obtain ⟨text, -, rfl⟩ := member
      exact ⟨List.mem_cons_of_mem "url" known, rfl⟩
  | topicClassification =>
    obtain ⟨text, -, rest⟩ := (Store.bind_ok_iff _ _ _).mp read
    obtain ⟨allowedLabels, -, returned⟩ := (Store.bind_ok_iff _ _ _).mp rest
    cases returned
    cases allowedLabels <;> simp [Clean, definedKeys, Json.someKey, optionalTexts,
      Json.someKeyOfItems_texts]
  | claimExtraction =>
    obtain ⟨text, -, rest⟩ := (Store.bind_ok_iff _ _ _).mp read
    obtain ⟨sourceId, -, rest⟩ := (Store.bind_ok_iff _ _ _).mp rest
    obtain ⟨entity, -, rest⟩ := (Store.bind_ok_iff _ _ _).mp rest
    obtain ⟨allowedClaimTypes, -, returned⟩ := (Store.bind_ok_iff _ _ _).mp rest
    have unnamed : credentialKey "source_id" = false ∧ credentialKey "text" = false := by
      decide
    cases returned
    cases entity <;> cases allowedClaimTypes <;>
      simp [Clean, definedKeys, Host.optionalMember, optionalTexts, Json.someKey,
        Json.someKeyOfItems, Json.someKeyOfFields, Json.someKeyOfItems_texts, unnamed]

/-- The input of an accepted request has keys of its task type only, none of its keys at any depth
is credential-like, and the members it was read from have none of the keys of requests to a
model. -/
theorem accepted_input_credential_free (taskType : Option String) (payload : Json)
    (request : NormalizedWorkUnitRequest)
    (accepted : normalizeSubmitRequest taskType payload = .ok request) :
    (∀ field ∈ request.inlineInput, field.1 ∈ definedKeys request.task) ∧
    (∀ key, Json.HasKey key (.obj request.inlineInput) → ∀ fragment ∈ credentialKeyFragments,
      ¬ fragment.toList <:+: Redaction.normalizedKey key) ∧
    ∃ name, normalizedTaskType taskType payload = .ok name ∧ name = request.task.taskType ∧
      ∀ field ∈ coercePayloadDict name payload, ∀ key ∈ modelProxyFieldKeys,
        Redaction.normalizedKey field.1 ≠ key.toList := by
  simp only [normalizeSubmitRequest, Store.bind_ok_iff] at accepted
  obtain ⟨name, named, -, -, accepted⟩ := accepted
  cases known : DemoTask.ofText name with
  | none => simp [known] at accepted
  | some task =>
    simp only [known, Store.bind_ok_iff, rejectForbiddenHostInput, rejectModelProxyShape,
      Store.ensure_ok_iff] at accepted
    obtain ⟨-, plain, -, modelless, inlineInput, read, returned⟩ := accepted
    cases returned
    have clean := normalizeInlineInput_clean _ _ task plain read
    refine ⟨fun field listed => (clean field listed).1, ?_, name, named,
      (DemoTask.ofText_eq_some name task).mp known, ?_⟩
    · intro key has fragment listed within
      have credential : credentialKey key = true := by
        rw [credentialKey, List.any_eq_true]
        exact ⟨fragment, listed, (Redaction.occursIn_iff _ _).mpr within⟩
      have found := Json.someKey_of_hasKey credentialKey key credential _ has
      rw [clean.plain] at found
      cases found
    · intro field listed key proxied same
      rw [modelProxyShape, List.any_eq_false] at modelless
      refine modelless field listed (List.any_eq_true.mpr ⟨key, proxied, ?_⟩)
      exact decide_eq_true same.symm

/-- The items of a list are accepted as they are given. -/
theorem accepted_input_credential_free_items :
    normalizeSubmitRequest (some " dedup ") (.arr [.obj [("id", .int 1)]]) =
        .ok ⟨.dedup, [("items", .arr [.obj [("id", .int 1)]])]⟩ ∧
      ∀ key, Json.HasKey key (.obj [("items", .arr [.obj [("id", .int 1)]])]) →
        ∀ fragment ∈ credentialKeyFragments, ¬ fragment.toList <:+: Redaction.normalizedKey key := by
  have accepted : normalizeSubmitRequest (some " dedup ") (.arr [.obj [("id", .int 1)]]) =
      .ok ⟨.dedup, [("items", .arr [.obj [("id", .int 1)]])]⟩ := by rfl
  exact ⟨accepted, (accepted_input_credential_free _ _ _ accepted).2.1⟩

end HostAdapter

end TokenBank
