import TokenBank.Config.Validator
import TokenBank.Core.Remains
import TokenBank.Guarantees.Registrations

/-!
# Starting from a validated configuration

Validation of the configuration checks that every backend executes where its class must, that
every backend a worker names is registered, and that no key is forbidden. It does not look at
the classes that a worker lists, at where a backend of another class executes, or at what
manifests have in common once their ids are trimmed. With these settled the capacity nodes are
rebuilt, with one row for every configured manifest.
-/

namespace TokenBank

open Canonical Validation Capacity CapacityPlane Registrations ConfigValidator

namespace Startup

/-! ## What validation establishes -/

/-- Checks find nothing exactly if each finds nothing. -/
theorem gathered_nil_iff {α : Type} (items : List α)
    (check : α → Except Raised (List ValidationIssue)) :
    gathered items check = .ok [] ↔ ∀ item ∈ items, check item = .ok [] := by
  simp only [gathered, Store.bind_ok_iff, Store.mapM_ok_iff, pure, Except.pure, Except.ok.injEq]
  induction items with
  | nil => simp
  | cons item rest inductionHypothesis =>
    rw [List.forall_mem_cons, ← inductionHypothesis]
    constructor
    · rintro ⟨_, _ | ⟨here, later⟩, empty⟩
      rw [List.flatten_cons, List.append_eq_nil_iff] at empty
      exact ⟨empty.1 ▸ here, _, later, empty.2⟩
    · rintro ⟨here, found, later, empty⟩
      exact ⟨_, .cons here later, by rw [List.flatten_cons, empty, List.append_nil]⟩

section Checks

variable {library : CapacityLibrary} {now : Reading library} {runtime : ValidatorRuntime}
  {config : ConfigDocuments}

/-- A configuration that validates passes the checks of the backends, of the capacity registry
and of the keys. -/
theorem checks_of_validated (result : ValidationResult)
    (validated : validateLoadedConfig library now runtime config = .ok result)
    (accepted : result.ok = true) :
    validateRoutebookAndBackendRegistry library now runtime config = .ok [] ∧
      validateCapacityRegistry runtime config = .ok [] ∧
      validatePolicyShape runtime config = .ok [] := by
  simp only [validateLoadedConfig, Store.bind_ok_iff, pure, Except.pure, Except.ok.injEq]
    at validated
  obtain ⟨_, -, ofRoutebook, routebook, ofCapacity, capacity, ofPolicy, policy, rfl⟩ := validated
  simp only [List.isEmpty_iff, List.append_eq_nil_iff] at accepted
  obtain ⟨⟨⟨-, rfl⟩, rfl⟩, rfl⟩ := accepted
  exact ⟨routebook, capacity, policy⟩

/-- Every registered backend passes its check. -/
theorem backends_of_checked
    (checked : validateRoutebookAndBackendRegistry library now runtime config = .ok []) :
    ∃ backends, backendRegistry config = .ok backends ∧ ∀ backend ∈ backends, ∃ fields,
      backend.asked = .ok fields ∧ validateBackendLocation library now runtime fields = .ok [] := by
  simp only [validateRoutebookAndBackendRegistry, Store.bind_ok_iff, pure, Except.pure,
    Except.ok.injEq, List.append_eq_nil_iff] at checked
  obtain ⟨backends, found, _, -, _, -, _, -, allowed, -, _, -, priced, -, _, -, _, -, _, -, _, -, _, -,
    _, -, known, -, _, -, _, -, _, gathered_backends, _, -, _, -, ⟨⟨-, nothing⟩, -⟩, -⟩ := checked
  subst nothing
  refine ⟨backends, found, fun backend listed => ?_⟩
  have here := (gathered_nil_iff _ _).mp gathered_backends backend listed
  simp only [validateBackend, Store.bind_ok_iff, pure, Except.pure, Except.ok.injEq,
    List.append_eq_nil_iff] at here
  obtain ⟨fields, asked, location, checked, ⟨rfl, -⟩, -⟩ := here
  exact ⟨fields, asked, checked⟩

/-- The entry of a backend that passes its check makes a manifest that executes where it must. -/
theorem located_of_checked (payload : JsonObject)
    (checked : validateBackendLocation library now runtime payload = .ok []) :
    ∃ manifest, backendManifestForValidation library now runtime payload = .ok manifest ∧
      Located manifest := by
  unfold validateBackendLocation at checked
  cases made : backendManifestForValidation library now runtime payload with
  | error raised =>
    rw [made] at checked
    cases raised <;> cases checked
  | ok manifest =>
    rw [made] at checked
    cases located : validateBackendExecutionLocation manifest with
    | ok value => exact ⟨manifest, rfl, (validateBackendExecutionLocation_ok_iff manifest).mp located⟩
    | error raised =>
      simp only [bind, Except.bind, located] at checked
      cases raised <;> cases checked

/-- Every backend that a configured worker names is registered as it is written. -/
theorem named_of_checked (checked : validateCapacityRegistry runtime config = .ok []) :
    ∃ backends backendById capacity workers, backendRegistry config = .ok backends ∧
      entriesBy runtime "backend_id" backends = .ok backendById ∧
      capacityRegistry config = .ok capacity ∧
      (Json.getOr capacity "worker_manifests" (.arr [])).iterated = .ok workers ∧
      ∀ worker ∈ workers, ∃ fields backendIds, worker.asked = .ok fields ∧
        (Json.getOr fields "backend_ids" (.arr [])).iterated = .ok backendIds ∧
        ∀ backendId, Json.str backendId ∈ backendIds → Json.has backendById backendId = true := by
  simp only [validateCapacityRegistry, Store.bind_ok_iff, pure, Except.pure, Except.ok.injEq,
    List.append_eq_nil_iff] at checked
  obtain ⟨backends, found, backendById, known, capacity, registry, workers, listed, _, -, _, -, _, -,
    _, -, _, gathered_workers, _, -, ⟨-, nothing⟩, -⟩ := checked
  subst nothing
  refine ⟨backends, backendById, capacity, workers, found, known, registry, listed,
    fun worker inWorkers => ?_⟩
  have here := (gathered_nil_iff _ _).mp gathered_workers worker inWorkers
  simp only [validateWorker, Store.bind_ok_iff, gathered_nil_iff] at here
  obtain ⟨fields, asked, backendIds, iterated, each⟩ := here
  refine ⟨fields, backendIds, asked, iterated, fun backendId named => ?_⟩
  have registered := each (.str backendId) named
  simp only [validateNamedBackend, Json.hashed, Json.textual, bind, Except.bind] at registered
  by_contra missing
  rw [Option.filter_some, if_neg missing] at registered
  cases registered

/-- No key of the registered backends is forbidden. -/
theorem linted_of_checked (checked : validatePolicyShape runtime config = .ok []) :
    ConfigValidator.lintExtensionKeys runtime ("$." ++ "backend_registry")
      (.obj config.backendRegistry) = [] := by
  simp only [validatePolicyShape, Store.bind_ok_iff, pure, Except.pure, Except.ok.injEq,
    List.append_eq_nil_iff, List.flatMap_eq_nil_iff] at checked
  obtain ⟨_, -, linted, -⟩ := checked
  exact List.map_eq_nil_iff.mp (linted ("backend_registry", config.backendRegistry) (by simp))

end Checks

/-! ## Keys -/

/-- What is left of a text is a part of it. -/
theorem stripped_within (text : String) : (BaseModel.stripped text).toList <:+: text.toList := by
  rw [BaseModel.stripped, String.toList_ofList]
  have back := List.dropWhile_suffix BaseModel.whiteSpace
    (l := (text.toList.dropWhile BaseModel.whiteSpace).reverse)
  rw [← List.reverse_prefix, List.reverse_reverse] at back
  exact back.isInfix.trans (List.dropWhile_suffix _).isInfix

/-- The normalized key of a part is a part of the normalized key. -/
theorem normalizedKey_infix (part key : String) (within : part.toList <:+: key.toList) :
    BaseModel.normalizedKey part <:+: BaseModel.normalizedKey key := by
  obtain ⟨before, after, same⟩ := within
  refine ⟨((before.flatMap Redaction.lowerCharacter).map (fun character =>
      if character = '-' then '_' else character)).map (fun character =>
      if character = ' ' then '_' else character),
    ((after.flatMap Redaction.lowerCharacter).map (fun character =>
      if character = '-' then '_' else character)).map (fun character =>
      if character = ' ' then '_' else character), ?_⟩
  simp only [BaseModel.normalizedKey, Redaction.normalizedKey, ← same, List.flatMap_append,
    List.map_append]

/-- A key has a fragment that has no place in an extension. -/
def fragmented (key : String) : Bool :=
  Policy.forbiddenExtensionKeyFragments.any (fun fragment =>
    Redaction.occursIn fragment.toList (BaseModel.normalizedKey key))

/-- A key that is forbidden once it is trimmed is forbidden before or has a fragment. -/
theorem forbiddenKey_stripped (key : String)
    (forbidden : BaseModel.forbiddenKey (BaseModel.stripped key) = true) :
    BaseModel.forbiddenKey key = true ∨ fragmented key = true := by
  have within := normalizedKey_infix _ key (stripped_within key)
  rw [BaseModel.forbiddenKey, Bool.or_eq_true, List.any_eq_true, List.any_eq_true] at forbidden
  rcases forbidden with ⟨exact, listed, same⟩ | ⟨fragment, listed, occurs⟩
  · right
    have apr : exact = "apr" := List.mem_singleton.mp listed
    rw [decide_eq_true_eq] at same
    rw [fragmented, List.any_eq_true]
    refine ⟨"apr", by decide, (Redaction.occursIn_iff _ _).mpr ?_⟩
    rw [← apr, same]
    exact within
  · left
    rw [BaseModel.forbiddenKey, Bool.or_eq_true, List.any_eq_true, List.any_eq_true]
    exact .inr ⟨fragment, listed,
      (Redaction.occursIn_iff _ _).mpr (((Redaction.occursIn_iff _ _).mp occurs).trans within)⟩

/-- Members have faulty keys one by one. -/
theorem lintFields_any (fields : JsonObject) : Policy.lintFields fields =
    fields.any (fun field => fragmented field.1 || Policy.lintExtensionKeys field.2) := by
  induction fields with
  | nil => rfl
  | cons field rest inductionHypothesis =>
    simp [Policy.lintFields, fragmented, inductionHypothesis]

/-- Items have faulty keys one by one. -/
theorem lintItems_any (items : List Json) :
    Policy.lintItems items = items.any Policy.lintExtensionKeys := by
  induction items with
  | nil => rfl
  | cons item rest inductionHypothesis => simp [Policy.lintItems, inductionHypothesis]

/-- A mapping that is validated has no key that is forbidden once it is trimmed. -/
theorem mapping_allowed (library : ModelLibrary) (fields : JsonObject)
    (allowed : BaseModel.hasForbiddenKey (.obj fields) = false)
    (clean : Policy.lintExtensionKeys (.obj fields) = false) :
    BaseModel.hasForbiddenKey (.obj (library.mapping fields)) = false := by
  rw [BaseModel.hasForbiddenKey, fieldsForbidden_any, List.any_eq_false] at allowed ⊢
  rw [Policy.lintExtensionKeys, lintFields_any, List.any_eq_false] at clean
  intro field stored
  obtain ⟨original, inFields, rfl⟩ := List.mem_map.mp ((objectOf_spec _).2 field stored)
  have here := allowed original inFields
  have linted := clean original inFields
  rw [Bool.or_eq_true, not_or] at here linted ⊢
  refine ⟨fun forbidden => ?_, here.2⟩
  unfold ModelLibrary.key at forbidden
  split at forbidden
  · exact (forbiddenKey_stripped original.1 forbidden).elim here.1 linted.1
  · exact here.1 forbidden

section Linting

variable (runtime : ValidatorRuntime)

/-- A key is found fault with exactly if it has a fragment, in whatever order they are tried. -/
theorem fragment_none_iff (key : String) :
    runtime.fragments.find? (fun fragment =>
      Redaction.occursIn fragment.toList (BaseModel.normalizedKey key)) = none ↔
      fragmented key = false := by
  rw [List.find?_eq_none, fragmented, List.any_eq_false]
  exact forall_congr' (fun fragment => by rw [runtime.all_fragments.mem_iff])

mutual
/-- A value has nothing to report exactly if it has no faulty key. -/
theorem lintExtensionKeys_nil_iff : ∀ (value : Json) (path : String),
    ConfigValidator.lintExtensionKeys runtime path value = [] ↔
      Policy.lintExtensionKeys value = false
  | .obj fields, path => by
    rw [ConfigValidator.lintExtensionKeys, Policy.lintExtensionKeys]
    exact lintFields_nil_iff fields path
  | .arr items, path => by
    rw [ConfigValidator.lintExtensionKeys, Policy.lintExtensionKeys]
    exact lintItems_nil_iff items path 0
  | .null, _ => iff_of_true rfl rfl
  | .bool _, _ => iff_of_true rfl rfl
  | .int _, _ => iff_of_true rfl rfl
  | .float _, _ => iff_of_true rfl rfl
  | .str _, _ => iff_of_true rfl rfl

/-- Items have nothing to report exactly if none has a faulty key. -/
theorem lintItems_nil_iff : ∀ (items : List Json) (path : String) (index : Nat),
    ConfigValidator.lintItems runtime path index items = [] ↔ Policy.lintItems items = false
  | [], _, _ => iff_of_true rfl rfl
  | item :: rest, path, index => by
    rw [ConfigValidator.lintItems, Policy.lintItems, List.append_eq_nil_iff, Bool.or_eq_false_iff,
      lintExtensionKeys_nil_iff item, lintItems_nil_iff rest]

/-- Members have nothing to report exactly if none has a faulty key. -/
theorem lintFields_nil_iff : ∀ (fields : List (String × Json)) (path : String),
    ConfigValidator.lintFields runtime path fields = [] ↔ Policy.lintFields fields = false
  | [], _ => iff_of_true rfl rfl
  | (key, value) :: rest, path => by
    rw [ConfigValidator.lintFields, Policy.lintFields, List.append_eq_nil_iff,
      List.append_eq_nil_iff, Bool.or_eq_false_iff, Bool.or_eq_false_iff,
      lintExtensionKeys_nil_iff value, lintFields_nil_iff rest, Option.toList_eq_nil_iff,
      Option.map_eq_none_iff, fragment_none_iff]
    rfl
end

end Linting

/-- A member of a value without faulty keys, or what is read in its place, has none. -/
theorem getOr_clean (fields : JsonObject) (clean : Policy.lintExtensionKeys (.obj fields) = false)
    (key : String) (other : Json) (otherwise : Policy.lintExtensionKeys other = false) :
    Policy.lintExtensionKeys (Json.getOr fields key other) = false := by
  unfold Json.getOr
  cases found : fields.find? (fun field => field.1 = key) with
  | none => exact otherwise
  | some field =>
    rw [Policy.lintExtensionKeys, lintFields_any, List.any_eq_false] at clean
    have here := clean field (List.mem_of_find?_eq_some found)
    rw [Bool.or_eq_true, not_or] at here
    exact Bool.eq_false_iff.mpr here.2

/-- What is asked of a value without faulty keys has none. -/
theorem asked_clean (value : Json) (clean : Policy.lintExtensionKeys value = false)
    (fields : JsonObject) (here : value.asked = .ok fields) :
    Policy.lintExtensionKeys (.obj fields) = false := by
  cases value with
  | obj members =>
    cases here
    exact clean
  | _ => cases here

/-- What a loop over a value without faulty keys takes has none. -/
theorem iterated_clean (value : Json) (clean : Policy.lintExtensionKeys value = false)
    (items : List Json) (here : value.iterated = .ok items) :
    ∀ item ∈ items, Policy.lintExtensionKeys item = false := by
  cases value with
  | arr values =>
    cases here
    rw [Policy.lintExtensionKeys, lintItems_any, List.any_eq_false] at clean
    exact fun item listed => Bool.eq_false_iff.mpr (clean item listed)
  | obj fields =>
    cases here
    intro item stored
    obtain ⟨field, -, rfl⟩ := List.mem_map.mp stored
    rfl
  | str text =>
    cases here
    intro item stored
    obtain ⟨character, -, rfl⟩ := List.mem_map.mp stored
    rfl
  | _ => cases here

/-! ## Manifests and their documents -/

/-- What pairing reads of the document of a backend's manifest. -/
theorem BackendManifest.read_of_validated (library : ModelLibrary) (document : JsonObject)
    (backend : BackendManifest)
    (validated : BackendManifest.modelValidate library (.obj document) = some backend) :
    required nonEmptyStr document "backend_id" = some backend.backendId ∧
      required (literal BackendClass.literals BackendClass.text) document "backend_class" =
        some backend.backendClass ∧
      required nonEmptyStr document "execution_location" = some backend.executionLocation ∧
      defaulted [] (mapping library) document "policy_constraints" =
        some backend.policyConstraints ∧
      BaseModel.hasForbiddenKey (.obj document) = false := by
  obtain ⟨fields, read, later⟩ := bind_some validated
  obtain ⟨_, backendId, later⟩ := bind_some later
  obtain ⟨_, backendClass, later⟩ := bind_some later
  obtain ⟨_, -, later⟩ := bind_some later
  obtain ⟨_, -, later⟩ := bind_some later
  obtain ⟨_, -, later⟩ := bind_some later
  obtain ⟨_, -, later⟩ := bind_some later
  obtain ⟨_, -, later⟩ := bind_some later
  obtain ⟨_, executionLocation, later⟩ := bind_some later
  obtain ⟨_, -, later⟩ := bind_some later
  obtain ⟨_, -, later⟩ := bind_some later
  obtain ⟨_, -, later⟩ := bind_some later
  obtain ⟨_, policyConstraints, later⟩ := bind_some later
  cases later
  have same : document = fields := Json.obj.inj (document_members _ _ fields read)
  subst same
  refine ⟨backendId, backendClass, executionLocation, policyConstraints, ?_⟩
  rw [Validation.document, Option.ite_none_right_eq_some] at read
  exact read.1.1

/-- The document of a worker's manifest names its backends. -/
theorem CapacityWorkerManifest.read_of_validated (library : ModelLibrary) (document : JsonObject)
    (worker : CapacityWorkerManifest)
    (validated : CapacityWorkerManifest.modelValidate library (.obj document) = some worker) :
    defaulted [] (listOf nonEmptyStr) document "backend_ids" = some worker.backendIds := by
  obtain ⟨fields, read, later⟩ := bind_some validated
  obtain ⟨_, -, later⟩ := bind_some later
  obtain ⟨_, -, later⟩ := bind_some later
  obtain ⟨_, -, later⟩ := bind_some later
  obtain ⟨_, -, later⟩ := bind_some later
  obtain ⟨_, -, later⟩ := bind_some later
  obtain ⟨_, -, later⟩ := bind_some later
  obtain ⟨_, -, later⟩ := bind_some later
  obtain ⟨_, -, later⟩ := bind_some later
  obtain ⟨_, backendIds, later⟩ := bind_some later
  obtain ⟨_, -, later⟩ := bind_some later
  obtain ⟨_, -, later⟩ := bind_some later
  obtain ⟨_, -, later⟩ := bind_some later
  obtain ⟨_, -, later⟩ := bind_some later
  obtain ⟨_, -, later⟩ := bind_some later
  cases later
  have same : document = fields := Json.obj.inj (document_members _ _ fields read)
  subst same
  exact backendIds

/-- A member that must be there is the member under its key. -/
theorem item_get {fields : JsonObject} {key : String} {value : Json}
    (found : Json.item fields key = .ok value) : Json.get fields key = value := by
  unfold Json.item at found
  split at found
  · exact Except.ok.inj found
  · cases found

section Entries

variable {library : CapacityLibrary} {now clock : Reading library} {runtime : ValidatorRuntime}
  {config : ConfigDocuments}

/-- The manifest of a backend's entry has the id, the class, the location and the constraints of
the entry. -/
theorem entry_of_backend (entry : Json) (backend : ValidBackend library)
    (here : OfBackendEntry runtime.toPythonRuntime clock entry backend) :
    ∃ fields, entry.asked = .ok fields ∧
      nonEmptyStr (.str (runtime.str (Json.get fields "backend_id"))) = some backend.1.backendId ∧
      literal BackendClass.literals BackendClass.text (Json.get fields "backend_class") =
        some backend.1.backendClass ∧
      nonEmptyStr (Json.get fields "execution_location") = some backend.1.executionLocation ∧
      (Policy.lintExtensionKeys (.obj fields) = false →
        BaseModel.hasForbiddenKey (.obj backend.1.policyConstraints) = false) := by
  obtain ⟨document, made, validated⟩ := here
  unfold Bootstrap.backendDocument at made
  simp only [Store.bind_ok_iff] at made
  obtain ⟨backendId, subscripted, fields, asked, backendClass, ofClass, _, -, executionLocation,
    ofLocation, _, -, _, -, _, -, _, -, returned⟩ := made
  cases returned
  obtain ⟨ofId, ofClass', ofLocation', constraints, allowed⟩ :=
    BackendManifest.read_of_validated _ _ backend.1 validated
  have subscripted_item : Json.item fields "backend_id" = .ok backendId := by
    cases entry with
    | obj members =>
      cases asked
      exact subscripted
    | _ => cases asked
  refine ⟨fields, asked, ?_, ?_, ?_, ?_⟩
  · rw [item_get subscripted_item]
    simpa [required, member] using ofId
  · rw [item_get ofClass]
    simpa [required, member] using ofClass'
  · rw [item_get ofLocation]
    simpa [required, member] using ofLocation'
  · intro clean
    have linted := getOr_clean fields clean "policy_constraints" (.obj []) rfl
    simp only [defaulted, member, List.find?_cons, String.reduceEq, decide_false, decide_true,
      Option.map_some] at constraints
    rw [BaseModel.hasForbiddenKey, fieldsForbidden_any, List.any_eq_false] at allowed
    have member_allowed := allowed
      ("policy_constraints", Json.getOr fields "policy_constraints" (.obj [])) (by simp)
    rw [Bool.or_eq_true, not_or] at member_allowed
    cases written : Json.getOr fields "policy_constraints" (.obj []) with
    | obj members =>
      rw [written] at constraints linted member_allowed
      rw [← Option.some.inj constraints]
      exact mapping_allowed _ members (Bool.eq_false_iff.mpr member_allowed.2) linted
    | _ =>
      rw [written] at constraints
      cases constraints

/-- The manifest that an entry is checked by has the class and the location of the entry. -/
theorem manifest_of_entry (payload : JsonObject) (manifest : BackendManifest)
    (made : backendManifestForValidation library now runtime payload = .ok manifest) :
    literal BackendClass.literals BackendClass.text (Json.get payload "backend_class") =
        some manifest.backendClass ∧
      nonEmptyStr (Json.get payload "execution_location") = some manifest.executionLocation := by
  simp only [backendManifestForValidation, Store.bind_ok_iff, validatedOr_ok_iff] at made
  obtain ⟨_, -, backendClass, ofClass, _, -, executionLocation, ofLocation, _, -, _, -, _, -, _, -,
    validated⟩ := made
  obtain ⟨-, same_class, same_location, -, -⟩ :=
    BackendManifest.read_of_validated _ _ manifest validated
  rw [item_get ofClass, item_get ofLocation]
  exact ⟨same_class, same_location⟩

/-- A backend whose entry passes its check executes where it must. -/
theorem located_of_entry (entry : Json) (backend : ValidBackend library)
    (here : OfBackendEntry runtime.toPythonRuntime clock entry backend) (fields : JsonObject)
    (asked : entry.asked = .ok fields)
    (checked : validateBackendLocation library now runtime fields = .ok []) :
    Located backend.1 := by
  obtain ⟨payload, asked_again, -, ofClass, ofLocation, -⟩ := entry_of_backend entry backend here
  rw [asked, Except.ok.injEq] at asked_again
  subst asked_again
  obtain ⟨manifest, made, located⟩ := located_of_checked fields checked
  obtain ⟨same_class, same_location⟩ := manifest_of_entry fields manifest made
  rw [ofClass, Option.some.injEq] at same_class
  rw [ofLocation, Option.some.injEq] at same_location
  rw [Located, same_class, same_location]
  exact located

/-- The texts of a list that reads are what is left of its items. -/
theorem items_of_listOf (items : List Json) (texts : List String)
    (read : listOf nonEmptyStr (.arr items) = some texts) (text : String) (listed : text ∈ texts) :
    ∃ written, Json.str written ∈ items ∧ nonEmptyStr (.str written) = some text := by
  change items.mapM nonEmptyStr = some texts at read
  induction items generalizing texts with
  | nil =>
    cases read
    cases listed
  | cons item rest inductionHypothesis =>
    rw [List.mapM_cons] at read
    obtain ⟨first, here, others, later, same⟩ : ∃ first, nonEmptyStr item = some first ∧
        ∃ others, rest.mapM nonEmptyStr = some others ∧ texts = first :: others := by
      obtain ⟨first, here, more⟩ := bind_some read
      obtain ⟨others, later, returned⟩ := bind_some more
      exact ⟨first, here, others, later, (Option.some.inj returned).symm⟩
    subst same
    rcases List.mem_cons.mp listed with rfl | inRest
    · cases item with
      | str written => exact ⟨written, List.mem_cons_self, here⟩
      | _ => cases here
    · obtain ⟨written, stored, read_text⟩ := inductionHypothesis others inRest later
      exact ⟨written, List.mem_cons_of_mem _ stored, read_text⟩

/-- A backend that a worker's entry names is one of the texts that the entry is written with. -/
theorem entry_of_worker (entry : Json) (worker : ValidWorker library)
    (here : OfWorkerEntry clock entry worker) :
    ∃ fields, entry.asked = .ok fields ∧ ∀ backendIds,
      (Json.getOr fields "backend_ids" (.arr [])).iterated = .ok backendIds →
      ∀ backendId ∈ worker.1.backendIds, ∃ written, Json.str written ∈ backendIds ∧
        nonEmptyStr (.str written) = some backendId := by
  obtain ⟨document, made, read⟩ := here
  simp only [Bootstrap.workerDocument, Store.bind_ok_iff, pure, Except.pure, Except.ok.injEq] at made
  obtain ⟨workerId, -, fields, asked, rfl⟩ := made
  refine ⟨fields, asked, fun backendIds iterated backendId named => ?_⟩
  have ofBackends := CapacityWorkerManifest.read_of_validated _ _ worker.1
    ((readWorker_iff library clock _ worker).mp read)
  change listOf nonEmptyStr (Json.getOr fields "backend_ids" (.arr [])) = _ at ofBackends
  cases written : Json.getOr fields "backend_ids" (.arr []) with
  | arr items =>
    rw [written] at ofBackends iterated
    cases iterated
    exact items_of_listOf _ _ ofBackends backendId named
  | _ =>
    rw [written] at ofBackends
    cases ofBackends

/-- An object has the keys of its members. -/
theorem has_objectOf (members : List (String × Json)) (key : String)
    (has : Json.has (objectOf members) key = true) : key ∈ members.map Prod.fst := by
  rw [Json.has, List.any_eq_true] at has
  obtain ⟨field, stored, same⟩ := has
  rw [decide_eq_true_eq] at same
  exact List.mem_map.mpr ⟨field, (objectOf_spec members).2 field stored, same⟩

/-- A text under which an entry is filed is the text of its member. -/
theorem entry_of_key (key : String) (entries : List Json) (found : JsonObject)
    (filed : entriesBy runtime key entries = .ok found) (text : String)
    (has : Json.has found text = true) :
    ∃ entry ∈ entries, ∃ fields, entry.asked = .ok fields ∧
      runtime.str (Json.get fields key) = text := by
  simp only [entriesBy, textsUnder, Store.bind_ok_iff, Store.mapM_ok_iff, pure, Except.pure,
    Except.ok.injEq] at filed
  obtain ⟨texts, each, rfl⟩ := filed
  obtain ⟨pair, zipped, rfl⟩ := List.mem_map.mp (has_objectOf _ _ has)
  obtain ⟨entry, listed, fields, asked, same⟩ :=
    CapacityTable.forall₂_mem each.flip pair.1 (List.of_mem_zip zipped).1
  exact ⟨entry, listed, fields, asked, same⟩

end Entries

/-! ## What validation leaves open -/

section Starting

variable {library : CapacityLibrary}

/-- Manifests that a validated configuration starts with: every worker lists the class of each
backend it names and may execute it, every backend executes at a location that a node can have,
and no two manifests give their nodes one id. -/
structure Startable (workers : List (ValidWorker library)) (backends : List (ValidBackend library)) :
    Prop where
  paired : ∀ worker ∈ workers, ∀ backendId ∈ worker.1.backendIds, ∀ backend,
    (backendsById (backends.map (·.1))).find? backendId = some backend →
      Pairs worker.1.routed backend
  placed : ∀ backend ∈ backends, (literal ExecutionLocation.literals ExecutionLocation.text
    (.str backend.1.executionLocation)).isSome = true
  distinct : (nodeIds (workers.map (·.1)) (backends.map (·.1))).Nodup

/-- What the row of a node says of the manifest it is made of. -/
abbrev RowOf := String × Option String × String

/-- The rows of the nodes of manifests. -/
def rowsOf (workers : List (ValidWorker library)) (backends : List (ValidBackend library)) :
    List RowOf :=
  workers.map (fun worker => (capacityNodeId worker.1.workerId, some worker.1.workerId,
    canonicalJsonDumps (.texts worker.1.backendIds))) ++
  backends.map (fun backend => (backend.1.capacityNodeId, none,
    canonicalJsonDumps (.texts [backend.1.backendId])))

/-- The rows of the table. -/
def rows (table : Store.Table String StoredCapacityNode) : List RowOf :=
  table.entries.map (fun entry => (entry.1, entry.2.workerId, entry.2.backendIdsJson))

/-- A rebuild succeeds and files one row for every configured manifest, and no other. -/
def Starts (digest : Digest) (runtime : PythonRuntime) (config : ConfigDocuments)
    (clock : RebuildClock library) (capacity : CapacityPlane) (workers : List (ValidWorker library))
    (backends : List (ValidBackend library)) : Prop :=
  ∃ count rebuilt, rebuildCapacityProjectionFromConfigAndDb digest runtime config clock capacity =
    .ok (count, rebuilt) ∧ (rows rebuilt.capacityNodes).Perm (rowsOf workers backends)

/-- Rows have the ids of nodes. -/
theorem rowsOf_ids (workers : List (ValidWorker library)) (backends : List (ValidBackend library)) :
    (rowsOf workers backends).map Prod.fst = nodeIds (workers.map (·.1)) (backends.map (·.1)) := by
  simp only [rowsOf, nodeIds, List.map_append, List.map_map]
  rfl

/-- Workers with ids of their own all count. -/
theorem workersById_perm (workers : List (ValidWorker library))
    (distinct : (workers.map (fun worker => worker.1.workerId)).Nodup) :
    ((workersById workers).entries.map Prod.snd).Perm workers := by
  have filed := Store.Table.entries_replaced (fun worker : ValidWorker library => worker.1.workerId)
    id (fun worker _ => worker) id (fun _ _ => rfl) workers distinct .empty (fun _ _ => rfl)
  have values := filed.map Prod.snd
  rw [List.map_map, List.map_map] at values
  exact values.trans (.of_eq (List.map_id workers))

/-- Ids of nodes of their own are ids of workers of their own. -/
theorem workerIds_distinct (workers : List (ValidWorker library))
    (backends : List (ValidBackend library))
    (distinct : (nodeIds (workers.map (·.1)) (backends.map (·.1))).Nodup) :
    (workers.map (fun worker => worker.1.workerId)).Nodup := by
  have ofWorkers := (List.nodup_append.mp distinct).1
  rw [List.map_map] at ofWorkers
  refine List.Nodup.of_map capacityNodeId ?_
  rw [List.map_map]
  exact ofWorkers

/-- The nodes that are filed have the rows of their manifests. -/
theorem rows_replaced (digest : Digest) (stamp : Nat → NodeStamp library)
    (workers : List (ValidWorker library)) (backends : List (ValidBackend library))
    (nodes : List (ValidNode library))
    (projected : projectedNodes digest stamp workers backends = .ok nodes)
    (distinct : (nodeIds (workers.map (·.1)) (backends.map (·.1))).Nodup) :
    (rows (replaceNodes nodes .empty)).Perm (rowsOf workers backends) := by
  have ids := projectedNodes_ids digest stamp workers backends nodes projected
  have filed := Store.Table.entries_replaced
    (fun node : ValidNode library => node.1.capacityNodeId) (fun node => nodeRow node.1)
    (fun node stored => { nodeRow node.1 with createdAt := stored.createdAt })
    (fun row => (row.workerId, row.backendIdsJson)) (fun _ _ => rfl) nodes (ids ▸ distinct) _
    (deleted_only nodes .empty)
  obtain ⟨ofWorkers, ofBackends, rfl, each_worker, each_backend⟩ :=
    CapacityTable.projected_aligned digest stamp workers backends nodes projected
  refine filed.trans (.of_eq ?_)
  rw [List.map_append, rowsOf]
  congr 1
  · rw [← List.forall₂_eq_eq_eq, List.forall₂_map_left_iff, List.forall₂_map_right_iff]
    refine each_worker.flip.imp (fun node worker here => ?_)
    change (node.1.capacityNodeId, node.1.workerId, canonicalJsonDumps (.texts node.1.backendIds)) = _
    rw [here.capacityNodeId, here.workerId, here.backendIds]
  · rw [← List.forall₂_eq_eq_eq, List.forall₂_map_left_iff, List.forall₂_map_right_iff]
    refine each_backend.flip.imp (fun node backend here => ?_)
    change (node.1.capacityNodeId, node.1.workerId, canonicalJsonDumps (.texts node.1.backendIds)) = _
    rw [here.capacityNodeId, here.workerId, here.backendIds]

/-- The ids of the nodes of manifests in another order are the same in another order. -/
theorem nodeIds_perm (workers others : List (ValidWorker library))
    (backends : List (ValidBackend library)) (same : workers.Perm others) :
    (nodeIds (workers.map (·.1)) (backends.map (·.1))).Perm
      (nodeIds (others.map (·.1)) (backends.map (·.1))) :=
  ((same.map (·.1)).map (fun worker => capacityNodeId worker.workerId)).append_right _

/-- Rows of manifests in another order are the same in another order. -/
theorem rowsOf_perm (workers others : List (ValidWorker library))
    (backends : List (ValidBackend library)) (same : workers.Perm others) :
    (rowsOf workers backends).Perm (rowsOf others backends) :=
  (same.map _).append_right _

variable {now : Reading library} {runtime : ValidatorRuntime} {config : ConfigDocuments}

/-- What a configuration that validates establishes of its manifests: every backend executes
where it must and has no forbidden key, and every backend that a worker names is there. -/
theorem manifests_of_validated (result : ValidationResult)
    (validated : validateLoadedConfig library now runtime config = .ok result)
    (accepted : result.ok = true) (clock : Reading library) (workers : List (ValidWorker library))
    (workers_valid : Bootstrap.workerManifestsFromConfig clock config = .ok workers)
    (backends : List (ValidBackend library))
    (backends_valid : Bootstrap.loadBackendManifests clock config runtime.toPythonRuntime =
      .ok backends) :
    (∀ backend ∈ backends, Located backend.1 ∧
      BaseModel.hasForbiddenKey (.obj backend.1.policyConstraints) = false) ∧
    ∀ worker ∈ workers, ∀ backendId ∈ worker.1.backendIds, ∃ backend,
      (backendsById (backends.map (·.1))).find? backendId = some backend := by
  obtain ⟨routebook, capacity, policy⟩ := checks_of_validated result validated accepted
  obtain ⟨backendEntries, found, each_backend⟩ := (loadBackendManifests_ok_iff _ _ _ _).mp
    backends_valid
  constructor
  · obtain ⟨checkedEntries, listed, checked⟩ := backends_of_checked routebook
    rw [backendRegistry, found, Except.ok.injEq] at listed
    subst listed
    have linted := (lintExtensionKeys_nil_iff runtime _ _).mp (linted_of_checked policy)
    obtain ⟨members, asked, iterated⟩ := (Store.bind_ok_iff _ _ _).mp found
    have clean := iterated_clean _ (getOr_clean members (asked_clean _ (getOr_clean _ linted
      "backend_registry" (.obj []) rfl) members asked) "backends" (.arr []) rfl) _ iterated
    intro backend inBackends
    obtain ⟨entry, inEntries, here⟩ := CapacityTable.forall₂_mem each_backend.flip backend inBackends
    obtain ⟨fields, asked_entry, passes⟩ := checked entry inEntries
    obtain ⟨payload, asked_again, -, -, -, allowed⟩ := entry_of_backend entry backend here
    exact ⟨located_of_entry entry backend here fields asked_entry passes,
      allowed (asked_clean entry (clean entry inEntries) payload asked_again)⟩
  · obtain ⟨namedEntries, backendById, members, entries, listed, filed, registry, iterated, named⟩ :=
      named_of_checked capacity
    rw [backendRegistry, found, Except.ok.injEq] at listed
    subst listed
    obtain ⟨workerEntries, found_workers, each_worker⟩ := (workerManifestsFromConfig_ok_iff _ _ _).mp
      workers_valid
    obtain ⟨fields, asked, iterated_again⟩ := (Store.bind_ok_iff _ _ _).mp found_workers
    have same_members : fields = members := by
      unfold ConfigValidator.capacityRegistry at registry
      cases document : Json.getOr config.capacityRegistry "capacity_registry" (.obj []) with
      | obj written =>
        rw [document] at asked registry
        cases asked
        exact Except.ok.inj registry
      | _ =>
        rw [document] at asked
        cases asked
    subst same_members
    rw [iterated, Except.ok.injEq] at iterated_again
    subst iterated_again
    intro worker inWorkers backendId names
    obtain ⟨entry, inEntries, here⟩ := CapacityTable.forall₂_mem each_worker.flip worker inWorkers
    obtain ⟨payload, written_ids, asked_entry, iterated_ids, registered⟩ := named entry inEntries
    obtain ⟨payload', asked_again, ids⟩ := entry_of_worker entry worker here
    rw [asked_entry, Except.ok.injEq] at asked_again
    subst asked_again
    obtain ⟨written, stored, read⟩ := ids written_ids iterated_ids backendId names
    obtain ⟨backendEntry, inBackends, _, asked_backend, text⟩ :=
      entry_of_key "backend_id" _ _ filed written (registered written stored)
    obtain ⟨backend, listed, of_entry⟩ := CapacityTable.forall₂_mem each_backend backendEntry
      inBackends
    obtain ⟨_, asked_again, same_id, -⟩ := entry_of_backend backendEntry backend of_entry
    rw [asked_backend, Except.ok.injEq] at asked_again
    rw [← asked_again, text, read, Option.some.injEq] at same_id
    rw [backendsById_find?]
    apply Option.isSome_iff_exists.mp
    rw [List.find?_isSome]
    exact ⟨backend.1, List.mem_reverse.mpr (List.mem_map.mpr ⟨backend, listed, rfl⟩), by
      simpa using same_id.symm⟩

/-- A rebuild on an empty database files the rows of manifests whose nodes have ids of their
own. -/
theorem rows_of_rebuild (digest : Digest) (clock : RebuildClock library) (capacity : CapacityPlane)
    (unregistered : capacity.plane.workerManifests = .empty)
    (unbuilt : capacity.capacityNodes = .empty) (workers : List (ValidWorker library))
    (workers_valid : Bootstrap.workerManifestsFromConfig clock.validatedAt config = .ok workers)
    (backends : List (ValidBackend library))
    (backends_valid : Bootstrap.loadBackendManifests clock.validatedAt config
      runtime.toPythonRuntime = .ok backends)
    (distinct : (nodeIds (workers.map (·.1)) (backends.map (·.1))).Nodup) (count : Nat)
    (rebuilt : CapacityPlane)
    (returned : rebuildCapacityProjectionFromConfigAndDb digest runtime.toPythonRuntime config clock
      capacity = .ok (count, rebuilt)) :
    (rows rebuilt.capacityNodes).Perm (rowsOf workers backends) := by
  have none_stored : storedWorkerManifests clock.validatedAt capacity =
      (.ok [] : Except Raised (List (ValidWorker library))) := by
    rw [storedWorkerManifests, unregistered]
    rfl
  simp only [rebuildCapacityProjectionFromConfigAndDb, workers_valid, none_stored, backends_valid,
    Store.bind_ok_iff, Except.ok.injEq, exists_eq_left', List.append_nil, pure, Except.pure,
    Prod.mk.injEq] at returned
  obtain ⟨⟨nodes, after⟩, filed, -, rfl⟩ := returned
  obtain ⟨others, others', validated, validated_backends, -, -, projected, rfl⟩ :=
    (rebuildCapacityNodes_ok_iff _ _ _ _ _ _ _).mp filed
  rw [forall₂_models (validatedWorker library clock.validatedAt) .model (fun _ => rfl)] at validated
  rw [forall₂_models (validatedBackend library clock.validatedAt) .model (fun _ => rfl)]
    at validated_backends
  subst validated validated_backends
  have counted := workersById_perm workers (workerIds_distinct workers backends distinct)
  rw [unbuilt]
  exact (rows_replaced digest clock.stamp _ backends nodes projected
    ((nodeIds_perm _ workers backends counted).nodup_iff.mpr distinct)).trans
      (rowsOf_perm _ workers backends counted)

end Starting

end Startup

open Startup

/-- A validated configuration whose manifests validate starts on an empty database, with one row
for every manifest, exactly if every worker may execute the backends it names, every backend
executes at a location of a node, and no two manifests give their nodes one id. -/
theorem validated_config_starts_iff {library : CapacityLibrary} (digest : Digest)
    (now : Reading library) (runtime : ValidatorRuntime) (config : ConfigDocuments)
    (result : ValidationResult)
    (validated : validateLoadedConfig library now runtime config = .ok result)
    (accepted : result.ok = true) (clock : RebuildClock library)
    (workers : List (ValidWorker library))
    (workers_valid : Bootstrap.workerManifestsFromConfig clock.validatedAt config = .ok workers)
    (backends : List (ValidBackend library))
    (backends_valid : Bootstrap.loadBackendManifests clock.validatedAt config
      runtime.toPythonRuntime = .ok backends)
    (capacity : CapacityPlane) (unregistered : capacity.plane.workerManifests = .empty)
    (unbuilt : capacity.capacityNodes = .empty) :
    Starts digest runtime.toPythonRuntime config clock capacity workers backends ↔
      Startable workers backends := by
  have filed : Filed library capacity := by
    intro _ _ _ _ found
    rw [unregistered] at found
    cases found
  have counts (workerId : String) : effective clock.validatedAt workers capacity workerId =
      workers.reverse.find? (fun worker => worker.1.workerId = workerId) := by
    rw [effective, unregistered]
    exact Option.none_or
  obtain ⟨sound, named⟩ := manifests_of_validated result validated accepted clock.validatedAt workers
    workers_valid backends backends_valid
  constructor
  · rintro ⟨count, rebuilt, returned, permuted⟩
    obtain ⟨configured, loaded, rebuildable⟩ := (rebuild_isOk_iff digest runtime.toPythonRuntime
      config clock capacity filed).mp ⟨_, returned⟩
    have same_workers := Except.ok.inj (workers_valid.symm.trans rebuildable.workers_loaded)
    have same_backends := Except.ok.inj (backends_valid.symm.trans rebuildable.backends_loaded)
    subst same_workers same_backends
    have distinct : (nodeIds (workers.map (·.1)) (backends.map (·.1))).Nodup := by
      have keys := permuted.map Prod.fst
      rw [rowsOf_ids, rows, List.map_map] at keys
      exact keys.nodup_iff.mp rebuilt.capacityNodes.distinct
    refine ⟨fun worker inWorkers backendId names backend found => ?_, fun backend listed =>
      (rebuildable.sound backend listed).2.1, distinct⟩
    have own := workerIds_distinct workers backends distinct
    have here : effective clock.validatedAt workers capacity worker.1.workerId = some worker := by
      rw [counts, Ranking.find?_key_iff (fun worker : ValidWorker library => worker.1.workerId) _
        (by rw [List.map_reverse]; exact List.nodup_reverse.mpr own)]
      exact ⟨List.mem_reverse.mpr inWorkers, rfl⟩
    rcases rebuildable.fits _ worker here with none | each
    · rw [none] at found
      cases found
    · obtain ⟨other, found_again, pairs⟩ := each backendId names
      rw [found, Option.some.injEq] at found_again
      exact found_again ▸ pairs
  · rintro ⟨paired, placed, distinct⟩
    have rebuildable : Rebuildable runtime.toPythonRuntime config clock.validatedAt capacity workers
        backends := by
      refine ⟨workers_valid, backends_valid, ?_, ?_, ?_⟩
      · intro _ _ found
        rw [unregistered] at found
        cases found
      · exact fun backend listed => ⟨(sound backend listed).1, placed backend listed,
          (sound backend listed).2⟩
      · intro workerId worker counted
        rw [counts] at counted
        have inWorkers := List.mem_reverse.mp (List.mem_of_find?_eq_some counted)
        right
        intro backendId names
        obtain ⟨backend, found⟩ := named worker inWorkers backendId names
        exact ⟨backend, found, paired worker inWorkers backendId names backend found⟩
    obtain ⟨⟨count, rebuilt⟩, returned⟩ := (rebuild_isOk_iff digest runtime.toPythonRuntime config
      clock capacity filed).mpr ⟨workers, backends, rebuildable⟩
    exact ⟨count, rebuilt, returned, rows_of_rebuild digest clock capacity unregistered unbuilt workers
      workers_valid backends backends_valid distinct count rebuilt returned⟩

namespace Startup

/-! ## A small configuration -/

/-- The runtime of the small configuration. -/
def listedRuntime : ValidatorRuntime where
  toPythonRuntime := asciiRuntime
  refusal := fun _ => ""
  fragments := Policy.forbiddenExtensionKeyFragments
  all_fragments := .refl _

/-- The entry of a worker that lists a class. -/
def workerEntry (backendClass : String) : Json := .obj [("backend_classes", .texts [backendClass]),
  ("backend_ids", .texts ["backend:url_check:v0"]), ("manifest_hash", .str "worker_win_01"),
  ("worker_id", .str "wrk_win_01")]

/-- A configuration of one tool, and of one worker that lists a class. -/
def pairedConfig (backendClass : String) : ConfigDocuments where
  backendPolicy := []
  backendRegistry := toolConfig.backendRegistry
  capacityRegistry := [("capacity_registry", .obj [("worker_manifests",
      .arr [workerEntry backendClass]),
    ("capacity_nodes", .arr [
      .obj [("capacity_node_id", .str "capnode:worker:wrk_win_01"),
        ("manifest_hash", .str "worker_win_01"), ("source", .str "worker_manifest"),
        ("worker_id", .str "wrk_win_01")],
      .obj [("backend_id", .str "backend:url_check:v0"),
        ("capacity_node_id", .str "capnode:tool:url_check:v0"),
        ("manifest_hash", .str "backend_url_check_v0"), ("source", .str "backend_manifest")]])])]
  runtime := [("runtime", .obj [("runtime_mode", .str "demo")])]
  pricing := []
  written := ⟨toolConfig.written.1, rfl⟩

/-- The worker of the configuration is loaded with the class that it lists. -/
theorem pairedConfig_workers (backendClass : BackendClass)
    (accepted : (Bootstrap.workerDocument (workerEntry backendClass.text)).toOption.any
      (fun document => (CapacityWorkerManifest.modelValidate
        (CapacityTable.plainLibrary.at noon.validatedAt.1) document).any (fun worker =>
          decide (worker.workerId = "wrk_win_01" ∧ worker.backendIds = ["backend:url_check:v0"] ∧
            worker.backendClasses = [backendClass]))) = true) :
    ∃ worker : ValidWorker CapacityTable.plainLibrary,
      Bootstrap.workerManifestsFromConfig noon.validatedAt (pairedConfig backendClass.text) =
        .ok [worker] ∧
      worker.1.workerId = "wrk_win_01" ∧ worker.1.backendIds = ["backend:url_check:v0"] ∧
      worker.1.backendClasses = [backendClass] := by
  obtain ⟨document, made⟩ : ∃ document,
    Bootstrap.workerDocument (workerEntry backendClass.text) = .ok document := ⟨_, rfl⟩
  rw [made, Except.toOption, Option.any_some, Option.any_eq_true_iff_get] at accepted
  obtain ⟨known, here⟩ := accepted
  have validated := (Option.some_get known).symm
  refine ⟨⟨_, CapacityWorkerManifest.valid_of_validated CapacityTable.plainLibrary
    noon.validatedAt.1 noon.validatedAt.2 _ _ validated⟩,
    (workerManifestsFromConfig_ok_iff _ _ _).mpr ⟨[workerEntry backendClass.text], rfl,
      .cons ⟨document, made, (readWorker_iff _ _ _ _).mpr validated⟩ .nil⟩, of_decide_eq_true here⟩

end Startup

/-- A tool and a worker that lists its class start. -/
theorem validated_config_starts_tool :
    ∃ (workers : List (ValidWorker CapacityTable.plainLibrary))
      (backends : List (ValidBackend CapacityTable.plainLibrary)),
      workers.length = 1 ∧ backends.length = 1 ∧
      Starts CapacityTable.framed asciiRuntime (pairedConfig "local_tool") noon unregistered workers
        backends := by
  have validated := (SchedulerOp.toOption_some_iff (validateLoadedConfig CapacityTable.plainLibrary
    noon.validatedAt listedRuntime (pairedConfig "local_tool")) ⟨true, []⟩).mp (by decide +kernel)
  obtain ⟨worker, loaded_workers, workerId, backendIds, backendClasses⟩ :=
    pairedConfig_workers .localTool (by decide +kernel)
  obtain ⟨tool, loaded, -, projectable, backendId, backendClass, nodeId⟩ := toolConfig_loaded
  refine ⟨[worker], [tool], rfl, rfl, (validated_config_starts_iff CapacityTable.framed
    noon.validatedAt listedRuntime (pairedConfig "local_tool") _ validated rfl noon [worker]
    loaded_workers [tool] (loaded _ rfl) unregistered rfl rfl).mpr ⟨?_, ?_, ?_⟩⟩
  · intro other inWorkers named names backend found
    rw [List.mem_singleton.mp inWorkers] at names ⊢
    rcases fits_tool tool.1 backendClass worker.1 (by rw [backendIds, backendId]) backendClasses with
      none | each
    · cases none
    · obtain ⟨known, found_again, pairs⟩ := each named names
      rw [show List.map (·.1) [tool] = [tool.1] from rfl, found_again, Option.some.injEq] at found
      exact found ▸ pairs
  · exact List.forall_mem_singleton.mpr projectable.1
  · change [capacityNodeId worker.1.workerId, tool.1.capacityNodeId].Nodup
    rw [workerId, nodeId]
    decide +kernel

/-- A configuration validates and so do its entries, and the rebuild raises: the worker does not
list the class of the backend that it names. -/
theorem validated_config_unlisted :
    (∃ result, validateLoadedConfig CapacityTable.plainLibrary noon.validatedAt listedRuntime
      (pairedConfig "local_script") = .ok result ∧ result.ok = true) ∧
    ∃ (workers : List (ValidWorker CapacityTable.plainLibrary))
      (backends : List (ValidBackend CapacityTable.plainLibrary)),
      Bootstrap.workerManifestsFromConfig noon.validatedAt (pairedConfig "local_script") =
        .ok workers ∧
      Bootstrap.loadBackendManifests noon.validatedAt (pairedConfig "local_script") asciiRuntime =
        .ok backends ∧
      ¬ ∃ result, rebuildCapacityProjectionFromConfigAndDb CapacityTable.framed asciiRuntime
        (pairedConfig "local_script") noon unregistered = .ok result := by
  have validated := (SchedulerOp.toOption_some_iff (validateLoadedConfig CapacityTable.plainLibrary
    noon.validatedAt listedRuntime (pairedConfig "local_script")) ⟨true, []⟩).mp (by decide +kernel)
  obtain ⟨worker, loaded_workers, workerId, backendIds, backendClasses⟩ :=
    pairedConfig_workers .localScript (by decide +kernel)
  obtain ⟨tool, loaded, -, -, backendId, backendClass, -⟩ := toolConfig_loaded
  refine ⟨⟨_, validated, rfl⟩, [worker], [tool], loaded_workers, loaded _ rfl, ?_⟩
  rw [rebuild_isOk_iff CapacityTable.framed asciiRuntime (pairedConfig "local_script") noon _
    unregistered_sound.1]
  rintro ⟨configured, backends, rebuildable⟩
  have same_workers := Except.ok.inj (loaded_workers.symm.trans rebuildable.workers_loaded)
  have same_backends := Except.ok.inj ((loaded _ rfl).symm.trans rebuildable.backends_loaded)
  subst same_workers same_backends
  have counts : effective noon.validatedAt [worker] unregistered worker.1.workerId = some worker := by
    rw [effective, show unregistered.plane.workerManifests.find? worker.1.workerId = none from rfl,
      Option.bind_none, Option.none_or]
    simp
  rcases rebuildable.fits _ worker counts with none | each
  · cases none
  · obtain ⟨backend, found, listed, -⟩ := each "backend:url_check:v0"
      (show _ ∈ worker.1.backendIds by rw [backendIds]; exact List.mem_singleton_self _)
    have same : tool.1 = backend := by
      rw [backendsById_find?] at found
      exact List.mem_singleton.mp (List.mem_of_find?_eq_some found) |>.symm
    change backend.backendClass ∈ worker.1.backendClasses at listed
    rw [← same, backendClass, backendClasses] at listed
    revert listed
    decide

end TokenBank
