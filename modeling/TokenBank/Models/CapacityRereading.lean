import TokenBank.Models.CapacityNode
import TokenBank.Models.Revalidation

/-!
# Capacity models validated

A validated manifest holds trimmed texts, datetimes as they dump, and a mapping that
validation leaves alone. The stored text of a node or of a worker's manifest, parsed and
validated, is the model again, up to the order of members. The moment at which a document is
validated shows in the timestamps that the document leaves out, and nowhere else.
-/

namespace TokenBank

open Canonical Validation

/-- A modelling library that reads a datetime back from the text it dumps to. -/
structure CapacityLibrary extends ModelLibrary where
  rereads : ∀ text dumped, datetime text = some dumped → toModelLibrary.Dated dumped

/-! ## Validated models -/

/-- A validated cost model. -/
structure CostModel.Valid (cost : CostModel) : Prop where
  unit : Named cost.unit

/-- The validated health of a backend. -/
structure BackendHealth.Valid (library : ModelLibrary) (health : BackendHealth) : Prop where
  backendId : Named health.backendId
  checkedAt : library.Dated health.checkedAt
  message : ∀ text, health.message = some text → Trimmed text

/-- The validated health of a node. -/
structure CapacityNodeHealth.Valid (library : ModelLibrary) (health : CapacityNodeHealth) :
    Prop where
  capacityNodeId : Named health.capacityNodeId
  checkedAt : library.Dated health.checkedAt
  message : ∀ text, health.message = some text → Trimmed text

/-- A validated backend manifest. -/
structure BackendManifest.Valid (library : ModelLibrary) (backend : BackendManifest) : Prop where
  backendId : Named backend.backendId
  capacityNodeId : Named backend.capacityNodeId
  displayName : Named backend.displayName
  version : Named backend.version
  supportedTaskTypes : ∀ text ∈ backend.supportedTaskTypes, Named text
  executionLocation : Named backend.executionLocation
  manifestHash : Named backend.manifestHash
  health : ∀ health, backend.health = some health → health.Valid library
  costModel : backend.costModel.Valid
  policyConstraints : library.Settled backend.policyConstraints

/-- A validated worker manifest. -/
structure CapacityWorkerManifest.Valid (library : ModelLibrary) (worker : CapacityWorkerManifest) :
    Prop where
  workerId : Named worker.workerId
  identity : Named worker.identity
  capabilities : ∀ text ∈ worker.capabilities, Named text
  allowedTaskTypes : ∀ text ∈ worker.allowedTaskTypes, Named text
  allowedDataLabels : ∀ text ∈ worker.allowedDataLabels, Named text
  backendIds : ∀ text ∈ worker.backendIds, Named text
  manifestHash : ∀ text, worker.manifestHash = some text → Trimmed text
  createdAt : library.Dated worker.createdAt
  updatedAt : library.Dated worker.updatedAt

/-- A validated capacity node. -/
structure CapacityNode.Valid (library : ModelLibrary) (node : CapacityNode) : Prop where
  capacityNodeId : Named node.capacityNodeId
  identity : Named node.identity
  capabilities : ∀ text ∈ node.capabilities, Named text
  allowedTaskTypes : ∀ text ∈ node.allowedTaskTypes, Named text
  allowedDataLabels : ∀ text ∈ node.allowedDataLabels, Named text
  costModel : node.costModel.Valid
  health : node.health.Valid library
  policyConstraints : library.Settled node.policyConstraints
  allowed : BaseModel.hasForbiddenKey (.obj node.policyConstraints) = false
  backendIds : ∀ text ∈ node.backendIds, Named text
  backendId : ∀ text, node.backendId = some text → Trimmed text
  workerId : ∀ text, node.workerId = some text → Trimmed text
  providerId : ∀ text, node.providerId = some text → Trimmed text
  modelId : ∀ text, node.modelId = some text → Trimmed text
  manifestHash : Named node.manifestHash
  createdAt : library.Dated node.createdAt
  updatedAt : library.Dated node.updatedAt

/-- A node with its constraints by key. -/
def CapacityNode.reordered (node : CapacityNode) : CapacityNode :=
  { node with policyConstraints := orderedMembers node.policyConstraints }

/-! ## Fields read back -/

/-- An execution location reads as itself. -/
theorem literal_executionLocation (location : ExecutionLocation) :
    literal ExecutionLocation.literals ExecutionLocation.text (.str location.text) =
      some location := by
  cases location <;> rfl

/-- A trust level reads as itself. -/
theorem literal_trustLevel (level : TrustLevel) :
    literal TrustLevel.literals TrustLevel.text (.str level.text) = some level := by
  cases level <;> rfl

/-- The kind of a node reads as itself. -/
theorem literal_nodeType (nodeType : CapacityNodeType) :
    literal CapacityNodeType.literals CapacityNodeType.text (.str nodeType.text) =
      some nodeType := by
  cases nodeType <;> rfl

/-- A privacy level reads as itself. -/
theorem literal_privacyLevel (level : PrivacyLevel) :
    literal PrivacyLevel.literals PrivacyLevel.text (.str level.text) = some level := by
  cases level <;> rfl

/-- A health status reads as itself. -/
theorem literal_healthStatus (status : HealthStatus) :
    literal HealthStatus.literals HealthStatus.text (.str status.text) = some status := by
  cases status <;> rfl

/-- Listed values read as themselves when each of them does. -/
theorem listOf_self {α : Type} (dump : α → Json) (read : Json → Option α) (items : List α)
    (reads : ∀ item ∈ items, read (ordered (dump item)) = some item) :
    listOf read (ordered (.arr (items.map dump))) = some items := by
  have read_all := listOf_ordered dump read id items reads
  rwa [List.map_id] at read_all

/-- Listed texts read as themselves. -/
theorem listOf_texts (texts : List String) (named : ∀ text ∈ texts, Named text) :
    listOf nonEmptyStr (ordered (.texts texts)) = some texts :=
  listOf_self Json.str nonEmptyStr texts
    (fun text inTexts => nonEmptyStr_of_named (named text inTexts))

/-- Listed privacy levels read as themselves. -/
theorem listOf_privacyLevels (levels : List PrivacyLevel) :
    listOf (literal PrivacyLevel.literals PrivacyLevel.text) (ordered (.privacyLevels levels)) =
      some levels :=
  listOf_self (fun level : PrivacyLevel => .str level.text) _ levels
    (fun level _ => literal_privacyLevel level)

/-- Listed backend classes read as themselves. -/
theorem listOf_backendClasses (classes : List BackendClass) :
    listOf (literal BackendClass.literals BackendClass.text) (ordered (.backendClasses classes)) =
      some classes :=
  listOf_self (fun backendClass : BackendClass => .str backendClass.text) _ classes
    (fun backendClass _ => literal_backendClass backendClass)

/-- A trimmed optional text reads as itself. -/
theorem optional_trimmed (value : Option String)
    (trimmed : ∀ text, value = some text → Trimmed text) :
    Validation.optional str (ordered (.optional value)) = some value := by
  rw [ordered_optional]
  exact optional_text str value (fun text here => str_of_trimmed (trimmed text here))

/-! ## Models read back -/

/-- The document of a cost model has no forbidden key. -/
theorem CostModel.allowed_dump (cost : CostModel) :
    BaseModel.hasForbiddenKey cost.modelDump = false := by
  rw [CostModel.modelDump, hasForbiddenKey_named _ ["schema_version", "unit",
    "estimated_cost_micros", "cost_source"] rfl (by decide +kernel)]
  simp [schemaVersion]

/-- The document of a validated cost model validates as it is. -/
theorem CostModel.modelValidate_dump (cost : CostModel) (valid : cost.Valid) :
    CostModel.modelValidate (ordered cost.modelDump) = some cost := by
  have distinct : ((membersOf cost.modelDump).map Prod.fst).Nodup := by
    change ["schema_version", "unit", "estimated_cost_micros", "cost_source"].Nodup
    decide
  have read := document_ordered ["unit", "estimated_cost_micros", "cost_source"] cost.modelDump
    rfl distinct (by simp [membersOf, modelDump, schemaVersion]) rfl cost.allowed_dump
  rw [modelValidate, read]
  refine bind_of_some rfl ?_
  refine bind_of_some (defaulted_of_member "work_unit" nonEmptyStr _ distinct "unit" rfl
    (nonEmptyStr_of_named valid.unit)) ?_
  refine bind_of_some (defaulted_of_member (0 : Nat) nonNegativeInt _ distinct
    "estimated_cost_micros" rfl (nonNegativeInt_ordered cost.estimatedCostMicros)) ?_
  refine bind_of_some (defaulted_of_member CostSource.policyDefault
    (literal CostSource.literals CostSource.text) _ distinct "cost_source" rfl
    (literal_costSource cost.costSource)) ?_
  rfl

section Reread

variable {library : ModelLibrary} (now : String)

/-- The document of a node's health has no forbidden key. -/
theorem CapacityNodeHealth.allowed_dump (health : CapacityNodeHealth) :
    BaseModel.hasForbiddenKey health.modelDump = false := by
  have latency : BaseModel.hasForbiddenKey ((health.latencyMs.map Json.nat).getD .null) =
      false := by
    cases health.latencyMs <;> rfl
  rw [CapacityNodeHealth.modelDump, hasForbiddenKey_named _ ["schema_version",
    "capacity_node_id", "status", "checked_at", "latency_ms", "active_assignments", "message"] rfl
    (by decide +kernel)]
  simp [schemaVersion, latency]

/-- The document of a validated node health validates as it is. -/
theorem CapacityNodeHealth.modelValidate_dump (health : CapacityNodeHealth)
    (valid : health.Valid library) :
    CapacityNodeHealth.modelValidate (library.at now) (ordered health.modelDump) =
      some health := by
  have distinct : ((membersOf health.modelDump).map Prod.fst).Nodup := by
    change ["schema_version", "capacity_node_id", "status", "checked_at", "latency_ms",
      "active_assignments", "message"].Nodup
    decide
  have dated : datetime (library.at now) (ordered (.str health.checkedAt)) =
      some health.checkedAt := valid.checkedAt
  have read := document_ordered ["capacity_node_id", "status", "checked_at", "latency_ms",
    "active_assignments", "message"] health.modelDump rfl distinct
    (by simp [membersOf, modelDump, schemaVersion]) rfl health.allowed_dump
  rw [modelValidate, read]
  refine bind_of_some rfl ?_
  refine bind_of_some (required_of_member nonEmptyStr _ distinct "capacity_node_id" rfl
    (nonEmptyStr_of_named valid.capacityNodeId)) ?_
  refine bind_of_some (defaulted_of_member HealthStatus.unknown
    (literal HealthStatus.literals HealthStatus.text) _ distinct "status" rfl
    (literal_healthStatus health.status)) ?_
  refine bind_of_some (defaulted_of_member (library.at now).now (datetime (library.at now)) _
    distinct "checked_at" rfl dated) ?_
  refine bind_of_some (defaulted_of_member none (Validation.optional nonNegativeInt) _ distinct
    "latency_ms" rfl (optional_nat_ordered health.latencyMs)) ?_
  refine bind_of_some (defaulted_of_member (0 : Nat) nonNegativeInt _ distinct
    "active_assignments" rfl (nonNegativeInt_ordered health.activeAssignments)) ?_
  refine bind_of_some (defaulted_of_member none (Validation.optional str) _ distinct "message" rfl
    (optional_trimmed health.message valid.message)) ?_
  rfl

/-- Arrays of texts have no keys. -/
@[simp] theorem hasForbiddenKey_texts (texts : List String) :
    BaseModel.hasForbiddenKey (.texts texts) = false := by
  rw [Json.texts, BaseModel.hasForbiddenKey, itemsForbidden_any, List.any_eq_false]
  intro item inItems
  obtain ⟨text, -, rfl⟩ := List.mem_map.mp inItems
  simp

/-- Arrays of privacy levels have no keys. -/
@[simp] theorem hasForbiddenKey_privacyLevels (levels : List PrivacyLevel) :
    BaseModel.hasForbiddenKey (.privacyLevels levels) = false := by
  have texts := hasForbiddenKey_texts (levels.map PrivacyLevel.text)
  rwa [Json.texts, List.map_map] at texts

/-- Arrays of backend classes have no keys. -/
@[simp] theorem hasForbiddenKey_backendClasses (classes : List BackendClass) :
    BaseModel.hasForbiddenKey (.backendClasses classes) = false := by
  have texts := hasForbiddenKey_texts (classes.map BackendClass.text)
  rwa [Json.texts, List.map_map] at texts

/-- The document of a node has the forbidden keys of its constraints. -/
theorem CapacityNode.hasForbiddenKey_dump (node : CapacityNode) :
    BaseModel.hasForbiddenKey node.modelDump =
      BaseModel.hasForbiddenKey (.obj node.policyConstraints) := by
  rw [CapacityNode.modelDump, hasForbiddenKey_named _
    ("schema_version" :: CapacityNode.fieldNames) rfl (by decide +kernel)]
  simp [schemaVersion, CostModel.allowed_dump, CapacityNodeHealth.allowed_dump]

/-- The document of a worker's manifest has no forbidden key. -/
theorem CapacityWorkerManifest.allowed_dump (worker : CapacityWorkerManifest) :
    BaseModel.hasForbiddenKey worker.modelDump = false := by
  rw [CapacityWorkerManifest.modelDump, hasForbiddenKey_named _
    ("schema_version" :: CapacityWorkerManifest.fieldNames) rfl (by decide +kernel)]
  simp [schemaVersion]

/-- The document of a validated worker manifest validates as it is. -/
theorem CapacityWorkerManifest.modelValidate_dump (worker : CapacityWorkerManifest)
    (valid : worker.Valid library) :
    CapacityWorkerManifest.modelValidate (library.at now) (ordered worker.modelDump) =
      some worker := by
  have distinct : ((membersOf worker.modelDump).map Prod.fst).Nodup := by
    change ("schema_version" :: fieldNames).Nodup
    decide
  have named : ∀ name ∈ (membersOf worker.modelDump).map Prod.fst,
      name = "schema_version" ∨ name ∈ fieldNames := by
    change ∀ name ∈ "schema_version" :: fieldNames, _
    simp
  have created : datetime (library.at now) (ordered (.str worker.createdAt)) =
      some worker.createdAt := valid.createdAt
  have updated : datetime (library.at now) (ordered (.str worker.updatedAt)) =
      some worker.updatedAt := valid.updatedAt
  have read := document_ordered fieldNames worker.modelDump rfl distinct named rfl
    worker.allowed_dump
  rw [modelValidate, read]
  refine bind_of_some rfl ?_
  refine bind_of_some (required_of_member nonEmptyStr _ distinct "worker_id" rfl
    (nonEmptyStr_of_named valid.workerId)) ?_
  refine bind_of_some (required_of_member nonEmptyStr _ distinct "identity" rfl
    (nonEmptyStr_of_named valid.identity)) ?_
  refine bind_of_some (defaulted_of_member [] (listOf nonEmptyStr) _ distinct "capabilities" rfl
    (listOf_texts worker.capabilities valid.capabilities)) ?_
  refine bind_of_some (defaulted_of_member [] (listOf nonEmptyStr) _ distinct
    "allowed_task_types" rfl (listOf_texts worker.allowedTaskTypes valid.allowedTaskTypes)) ?_
  refine bind_of_some (defaulted_of_member [] (listOf nonEmptyStr) _ distinct
    "allowed_data_labels" rfl (listOf_texts worker.allowedDataLabels valid.allowedDataLabels)) ?_
  refine bind_of_some (defaulted_of_member [PrivacyLevel.privateData]
    (listOf (literal PrivacyLevel.literals PrivacyLevel.text)) _ distinct "allowed_privacy_levels"
    rfl (listOf_privacyLevels worker.allowedPrivacyLevels)) ?_
  refine bind_of_some (defaulted_of_member ExecutionLocation.windowsWorker
    (literal ExecutionLocation.literals ExecutionLocation.text) _ distinct "execution_location" rfl
    (literal_executionLocation worker.executionLocation)) ?_
  refine bind_of_some (defaulted_of_member TrustLevel.trustedPrivate
    (literal TrustLevel.literals TrustLevel.text) _ distinct "trust_level" rfl
    (literal_trustLevel worker.trustLevel)) ?_
  refine bind_of_some (defaulted_of_member [] (listOf nonEmptyStr) _ distinct "backend_ids" rfl
    (listOf_texts worker.backendIds valid.backendIds)) ?_
  refine bind_of_some (defaulted_of_member []
    (listOf (literal BackendClass.literals BackendClass.text)) _ distinct "backend_classes" rfl
    (listOf_backendClasses worker.backendClasses)) ?_
  refine bind_of_some (defaulted_of_member HealthStatus.unknown
    (literal HealthStatus.literals HealthStatus.text) _ distinct "health_status" rfl
    (literal_healthStatus worker.healthStatus)) ?_
  refine bind_of_some (defaulted_of_member none (Validation.optional str) _ distinct
    "manifest_hash" rfl (optional_trimmed worker.manifestHash valid.manifestHash)) ?_
  refine bind_of_some (defaulted_of_member (library.at now).now (datetime (library.at now)) _
    distinct "created_at" rfl created) ?_
  refine bind_of_some (defaulted_of_member (library.at now).now (datetime (library.at now)) _
    distinct "updated_at" rfl updated) ?_
  rfl

/-- The document of a validated node validates as it is, up to the order of members. -/
theorem CapacityNode.modelValidate_dump (node : CapacityNode) (valid : node.Valid library) :
    CapacityNode.modelValidate (library.at now) (ordered node.modelDump) =
      some node.reordered := by
  have distinct : ((membersOf node.modelDump).map Prod.fst).Nodup := by
    change ("schema_version" :: fieldNames).Nodup
    decide
  have named : ∀ name ∈ (membersOf node.modelDump).map Prod.fst,
      name = "schema_version" ∨ name ∈ fieldNames := by
    change ∀ name ∈ "schema_version" :: fieldNames, _
    simp
  have created : datetime (library.at now) (ordered (.str node.createdAt)) =
      some node.createdAt := valid.createdAt
  have updated : datetime (library.at now) (ordered (.str node.updatedAt)) =
      some node.updatedAt := valid.updatedAt
  have constraints : mapping (library.at now) (ordered (.obj node.policyConstraints)) =
      some (orderedMembers node.policyConstraints) :=
    mapping_ordered library node.policyConstraints valid.policyConstraints
  have read := document_ordered fieldNames node.modelDump rfl distinct named rfl
    (node.hasForbiddenKey_dump.trans valid.allowed)
  rw [modelValidate, read]
  refine bind_of_some rfl ?_
  refine bind_of_some (required_of_member nonEmptyStr _ distinct "capacity_node_id" rfl
    (nonEmptyStr_of_named valid.capacityNodeId)) ?_
  refine bind_of_some (required_of_member
    (literal CapacityNodeType.literals CapacityNodeType.text) _ distinct "node_type" rfl
    (literal_nodeType node.nodeType)) ?_
  refine bind_of_some (required_of_member nonEmptyStr _ distinct "identity" rfl
    (nonEmptyStr_of_named valid.identity)) ?_
  refine bind_of_some (required_of_member (listOf nonEmptyStr) _ distinct "capabilities" rfl
    (listOf_texts node.capabilities valid.capabilities)) ?_
  refine bind_of_some (required_of_member (literal TrustLevel.literals TrustLevel.text) _
    distinct "trust_level" rfl (literal_trustLevel node.trustLevel)) ?_
  refine bind_of_some (required_of_member (listOf nonEmptyStr) _ distinct "allowed_task_types" rfl
    (listOf_texts node.allowedTaskTypes valid.allowedTaskTypes)) ?_
  refine bind_of_some (defaulted_of_member [] (listOf nonEmptyStr) _ distinct
    "allowed_data_labels" rfl (listOf_texts node.allowedDataLabels valid.allowedDataLabels)) ?_
  refine bind_of_some (defaulted_of_member [PrivacyLevel.privateData]
    (listOf (literal PrivacyLevel.literals PrivacyLevel.text)) _ distinct "allowed_privacy_levels"
    rfl (listOf_privacyLevels node.allowedPrivacyLevels)) ?_
  refine bind_of_some (required_of_member
    (literal ExecutionLocation.literals ExecutionLocation.text) _ distinct "execution_location" rfl
    (literal_executionLocation node.executionLocation)) ?_
  refine bind_of_some (defaulted_of_member ({} : CostModel) CostModel.modelValidate _ distinct
    "cost_model" rfl (CostModel.modelValidate_dump node.costModel valid.costModel)) ?_
  refine bind_of_some (required_of_member (CapacityNodeHealth.modelValidate (library.at now)) _
    distinct "health" rfl (CapacityNodeHealth.modelValidate_dump now node.health valid.health)) ?_
  refine bind_of_some (defaulted_of_member [] (mapping (library.at now)) _ distinct
    "policy_constraints" rfl constraints) ?_
  refine bind_of_some (defaulted_of_member [] (listOf nonEmptyStr) _ distinct "backend_ids" rfl
    (listOf_texts node.backendIds valid.backendIds)) ?_
  refine bind_of_some (defaulted_of_member []
    (listOf (literal BackendClass.literals BackendClass.text)) _ distinct "backend_classes" rfl
    (listOf_backendClasses node.backendClasses)) ?_
  refine bind_of_some (defaulted_of_member none (Validation.optional str) _ distinct "backend_id"
    rfl (optional_trimmed node.backendId valid.backendId)) ?_
  refine bind_of_some (defaulted_of_member none (Validation.optional str) _ distinct "worker_id"
    rfl (optional_trimmed node.workerId valid.workerId)) ?_
  refine bind_of_some (defaulted_of_member none (Validation.optional str) _ distinct "provider_id"
    rfl (optional_trimmed node.providerId valid.providerId)) ?_
  refine bind_of_some (defaulted_of_member none (Validation.optional str) _ distinct "model_id"
    rfl (optional_trimmed node.modelId valid.modelId)) ?_
  refine bind_of_some (required_of_member nonEmptyStr _ distinct "manifest_hash" rfl
    (nonEmptyStr_of_named valid.manifestHash)) ?_
  refine bind_of_some (defaulted_of_member (library.at now).now (datetime (library.at now)) _
    distinct "created_at" rfl created) ?_
  refine bind_of_some (defaulted_of_member (library.at now).now (datetime (library.at now)) _
    distinct "updated_at" rfl updated) ?_
  rfl

end Reread

/-! ## Stored texts -/

/-- Arrays of texts are plain. -/
@[simp] theorem plain_texts (texts : List String) : plain (.texts texts) = true :=
  plain_arr Json.str texts (fun _ _ => rfl)

/-- Arrays of privacy levels are plain. -/
@[simp] theorem plain_privacyLevels (levels : List PrivacyLevel) :
    plain (.privacyLevels levels) = true :=
  plain_arr _ levels (fun _ _ => rfl)

/-- Arrays of backend classes are plain. -/
@[simp] theorem plain_backendClasses (classes : List BackendClass) :
    plain (.backendClasses classes) = true :=
  plain_arr _ classes (fun _ _ => rfl)

/-- The document of a cost model is plain. -/
@[simp] theorem CostModel.plain_dump (cost : CostModel) : plain cost.modelDump = true := by
  apply plain_obj _ ["schema_version", "unit", "estimated_cost_micros", "cost_source"] rfl
    (by decide)
  simp [plainFields, schemaVersion]

/-- The document of a node's health is plain. -/
@[simp] theorem CapacityNodeHealth.plain_dump (health : CapacityNodeHealth) :
    plain health.modelDump = true := by
  have latency : plain ((health.latencyMs.map Json.nat).getD .null) = true := by
    cases health.latencyMs <;> rfl
  apply plain_obj _ ["schema_version", "capacity_node_id", "status", "checked_at", "latency_ms",
    "active_assignments", "message"] rfl (by decide)
  simp [plainFields, schemaVersion, latency]

/-- The document of a worker's manifest is plain. -/
theorem CapacityWorkerManifest.plain_dump (worker : CapacityWorkerManifest) :
    plain worker.modelDump = true := by
  apply plain_obj _ ("schema_version" :: fieldNames) rfl (by decide)
  simp [plainFields, schemaVersion]

/-- The document of a node with plain constraints is plain. -/
theorem CapacityNode.plain_dump (node : CapacityNode)
    (constraints : plain (.obj node.policyConstraints) = true) : plain node.modelDump = true := by
  apply plain_obj _ ("schema_version" :: fieldNames) rfl (by decide)
  simp [plainFields, schemaVersion, constraints]

/-- The stored text of a validated worker manifest, parsed and validated at any moment, is the
manifest. -/
theorem CapacityWorkerManifest.reread (library : ModelLibrary) (now : String)
    (worker : CapacityWorkerManifest) (valid : worker.Valid library) :
    (jsonLoads (canonicalJsonDumps worker.modelDump)).bind
      (CapacityWorkerManifest.modelValidate (library.at now)) = some worker := by
  rw [jsonLoads_canonicalJsonDumps _ worker.plain_dump, Option.bind_some]
  exact CapacityWorkerManifest.modelValidate_dump now worker valid

/-- The stored text of a validated node, parsed and validated, is the node, up to the order of
members. -/
theorem CapacityNode.reread (library : ModelLibrary) (node : CapacityNode)
    (valid : node.Valid library) :
    (jsonLoads (canonicalJsonDumps node.modelDump)).bind (CapacityNode.modelValidate library) =
      some node.reordered := by
  rw [jsonLoads_canonicalJsonDumps _ (node.plain_dump valid.policyConstraints.plain),
    Option.bind_some]
  exact CapacityNode.modelValidate_dump library.now node valid

end TokenBank
