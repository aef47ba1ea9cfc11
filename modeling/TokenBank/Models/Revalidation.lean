import TokenBank.Models.Validation

/-!
# Dumped envelopes validated again

A validated model holds trimmed texts, datetimes as they dump, and mappings whose keys
validation leaves alone. The document it dumps to, written, parsed and validated, is the
model again, with the members of its free-form mappings in the order of their keys. What
validation refuses is a forbidden key, as trimming a key can make one.
-/

namespace TokenBank

open Canonical Validation

/-! ## Validated parts -/

/-- There are no blanks around a text. -/
def Trimmed (text : String) : Prop := BaseModel.stripped text = text
  deriving Decidable

/-- A text without blanks around it that is not empty. -/
def Named (text : String) : Prop := Trimmed text ∧ text ≠ ""
  deriving Decidable

/-- A datetime, written as it dumps. -/
def ModelLibrary.Dated (library : ModelLibrary) (text : String) : Prop :=
  library.datetime text = some text

/-- A mapping whose keys validation leaves alone, with a canonical text. -/
structure ModelLibrary.Settled (library : ModelLibrary) (fields : JsonObject) : Prop where
  plain : plain (.obj fields) = true
  keys : ∀ field ∈ fields, library.key field.1 = field.1

/-- The members of a mapping by key, each ordered. -/
def orderedMembers (fields : JsonObject) : JsonObject :=
  (byKey fields).map (fun field => (field.1, ordered field.2))

/-- A validated artifact reference. -/
structure ArtifactRef.Valid (library : ModelLibrary) (artifact : ArtifactRef) : Prop where
  artifactId : Named artifact.artifactId
  uri : Named artifact.uri
  mediaType : Named artifact.mediaType
  artifactHash : Named artifact.artifactHash
  metadata : library.Settled artifact.metadata

/-- A validated usage record. -/
structure UsageRecord.Valid (library : ModelLibrary) (usage : UsageRecord) : Prop where
  usageRecordId : Named usage.usageRecordId
  workUnitId : Named usage.workUnitId
  attemptId : Named usage.attemptId
  backendId : Named usage.backendId
  recordedAt : library.Dated usage.recordedAt

/-- A validated backend error. -/
structure BackendError.Valid (library : ModelLibrary) (error : BackendError) : Prop where
  errorCode : Named error.errorCode
  errorMessage : Named error.errorMessage
  redactedDetails : library.Settled error.redactedDetails
  occurredAt : library.Dated error.occurredAt

/-- A validated result envelope. -/
structure WorkUnitResultEnvelope.Valid (library : ModelLibrary)
    (envelope : WorkUnitResultEnvelope) : Prop where
  resultEnvelopeId : Named envelope.resultEnvelopeId
  workUnitId : Named envelope.workUnitId
  runId : Named envelope.runId
  attemptId : Named envelope.attemptId
  assignmentId : Named envelope.assignmentId
  backendId : ∀ text, envelope.backendId = some text → Named text
  providerId : ∀ text, envelope.providerId = some text → Trimmed text
  modelId : ∀ text, envelope.modelId = some text → Trimmed text
  workerId : ∀ text, envelope.workerId = some text → Trimmed text
  capacityNodeId : ∀ text, envelope.capacityNodeId = some text → Trimmed text
  output : library.Settled envelope.output
  outputHash : Named envelope.outputHash
  resultHash : Named envelope.resultHash
  artifactRefs : ∀ artifact ∈ envelope.artifactRefs, artifact.Valid library
  usageRecords : ∀ usage ∈ envelope.usageRecords, usage.Valid library
  redactedLogs : ∀ text ∈ envelope.redactedLogs, Trimmed text
  errors : ∀ error ∈ envelope.errors, error.Valid library
  backendError : ∀ error, envelope.backendError = some error → error.Valid library
  startedAt : ∀ text, envelope.startedAt = some text → library.Dated text
  completedAt : library.Dated envelope.completedAt

/-- An artifact reference with its metadata by key. -/
def ArtifactRef.reordered (artifact : ArtifactRef) : ArtifactRef :=
  { artifact with metadata := orderedMembers artifact.metadata }

/-- A backend error with its details by key. -/
def BackendError.reordered (error : BackendError) : BackendError :=
  { error with redactedDetails := orderedMembers error.redactedDetails }

/-- An envelope with its free-form mappings by key. -/
def WorkUnitResultEnvelope.reordered (envelope : WorkUnitResultEnvelope) :
    WorkUnitResultEnvelope :=
  { envelope with
    output := orderedMembers envelope.output
    artifactRefs := envelope.artifactRefs.map ArtifactRef.reordered
    errors := envelope.errors.map BackendError.reordered
    backendError := envelope.backendError.map BackendError.reordered }

/-! ## Trimming -/

/-- Dropping blanks in front a second time drops nothing. -/
theorem dropWhile_twice {α : Type} (drops : α → Bool) (items : List α) :
    (items.dropWhile drops).dropWhile drops = items.dropWhile drops := by
  induction items with
  | nil => rfl
  | cons head rest inductionHypothesis =>
    cases dropped : drops head with
    | true => simpa [dropped] using inductionHypothesis
    | false => simp [dropped]

/-- What is dropped in front does not matter to what is dropped behind. -/
theorem dropWhile_reverse_dropWhile {α : Type} (drops : α → Bool) (items : List α) :
    (((items.dropWhile drops).reverse.dropWhile drops).reverse).dropWhile drops =
      ((items.dropWhile drops).reverse.dropWhile drops).reverse := by
  cases front : items.dropWhile drops with
  | nil => rfl
  | cons head rest =>
    have stays : drops head = false := by
      have first := List.head?_dropWhile_not drops items
      rw [front] at first
      simpa using first
    have kept : ((head :: rest).reverse.dropWhile drops).reverse =
        head :: (rest.reverse.dropWhile drops).reverse := by
      rw [List.reverse_cons, List.dropWhile_append]
      split
      · rename_i none
        have empty := List.isEmpty_iff.mp none
        simp [empty, stays]
      · simp
    rw [kept, List.dropWhile_cons, stays]
    rfl

/-- A trimmed text is trimmed. -/
theorem trimmed_stripped (text : String) : Trimmed (BaseModel.stripped text) := by
  have front := dropWhile_reverse_dropWhile BaseModel.whiteSpace text.toList
  simp only [Trimmed, BaseModel.stripped, String.toList_ofList, front, List.reverse_reverse,
    dropWhile_twice]

/-- A text that neither starts nor ends with a blank is trimmed. -/
theorem trimmed_of_ends (text : String) (starts : (text.toList.head?.all
    (fun character => !BaseModel.whiteSpace character)) = true)
    (ends : (text.toList.getLast?.all (fun character => !BaseModel.whiteSpace character)) = true) :
    Trimmed text := by
  have unchanged (characters : List Char) (visible : (characters.head?.all
      (fun character => !BaseModel.whiteSpace character)) = true) :
      characters.dropWhile BaseModel.whiteSpace = characters := by
    cases characters with
    | nil => rfl
    | cons head rest =>
      have kept : BaseModel.whiteSpace head = false := by simpa using visible
      rw [List.dropWhile_cons, kept]
      rfl
  rw [← List.head?_reverse] at ends
  rw [Trimmed, BaseModel.stripped, unchanged _ starts, unchanged _ ends, List.reverse_reverse,
    String.ofList_toList]

/-- Something is left of a text with a character that is not a blank. -/
theorem stripped_filled (text : String) (character : Char) (inText : character ∈ text.toList)
    (visible : BaseModel.whiteSpace character = false) : BaseModel.stripped text ≠ "" := by
  have kept : character ∈ text.toList.dropWhile BaseModel.whiteSpace := by
    rw [← List.takeWhile_append_dropWhile (p := BaseModel.whiteSpace) (l := text.toList),
      List.mem_append] at inText
    rcases inText with blank | kept
    · exact absurd (List.mem_takeWhile_imp blank) (by simp [visible])
    · exact kept
  intro empty
  rw [BaseModel.stripped, String.ofList_eq_empty_iff, List.reverse_eq_nil_iff,
    List.dropWhile_eq_nil_iff] at empty
  have blank := empty character (List.mem_reverse.mpr kept)
  simp [visible] at blank

/-- A validated key is validated as itself. -/
theorem ModelLibrary.key_key (library : ModelLibrary) (key : String) :
    library.key (library.key key) = library.key key := by
  unfold ModelLibrary.key
  split
  · exact trimmed_stripped key
  · rfl

/-! ## Members of ordered documents -/

/-- The member under a name of an ordered document. -/
theorem member_ordered (fields : JsonObject) (distinct : (fields.map Prod.fst).Nodup)
    (name : String) : member (orderedMembers fields) name = (member fields name).map ordered := by
  unfold member
  rw [orderedMembers, find?_ordered fields distinct name]
  cases fields.find? (fun field => field.1 = name) <;> rfl

/-- The member a document starts with. -/
@[simp] theorem member_cons_self (name : String) (value : Json) (rest : JsonObject) :
    member ((name, value) :: rest) name = some value := by
  simp [member]

/-- Members have forbidden keys one by one. -/
theorem fieldsForbidden_any (fields : JsonObject) : BaseModel.fieldsForbidden fields =
    fields.any (fun field => BaseModel.forbiddenKey field.1 || BaseModel.hasForbiddenKey field.2) := by
  induction fields with
  | nil => rfl
  | cons field rest inductionHypothesis =>
    simp [BaseModel.fieldsForbidden, inductionHypothesis]

/-- Items have forbidden keys one by one. -/
theorem itemsForbidden_any (items : List Json) :
    BaseModel.itemsForbidden items = items.any BaseModel.hasForbiddenKey := by
  induction items with
  | nil => rfl
  | cons item rest inductionHypothesis =>
    simp [BaseModel.itemsForbidden, inductionHypothesis]

mutual
/-- Ordering a value does not make or remove a forbidden key. -/
theorem hasForbiddenKey_ordered : ∀ value,
    BaseModel.hasForbiddenKey (ordered value) = BaseModel.hasForbiddenKey value
  | .null => rfl
  | .bool _ => rfl
  | .int _ => rfl
  | .float _ => rfl
  | .str _ => rfl
  | .arr items => by
    rw [ordered, BaseModel.hasForbiddenKey, BaseModel.hasForbiddenKey, itemsForbidden_ordered items]
  | .obj fields => by
    rw [ordered, BaseModel.hasForbiddenKey, BaseModel.hasForbiddenKey,
      ← fieldsForbidden_ordered fields, fieldsForbidden_any, fieldsForbidden_any]
    exact (List.perm_insertionSort _ (orderedFields fields)).any_eq

/-- Ordering items does not make or remove a forbidden key. -/
theorem itemsForbidden_ordered : ∀ items,
    BaseModel.itemsForbidden (orderedItems items) = BaseModel.itemsForbidden items
  | [] => rfl
  | item :: rest => by
    rw [orderedItems, BaseModel.itemsForbidden, BaseModel.itemsForbidden,
      hasForbiddenKey_ordered item, itemsForbidden_ordered rest]

/-- Ordering members does not make or remove a forbidden key. -/
theorem fieldsForbidden_ordered : ∀ fields,
    BaseModel.fieldsForbidden (orderedFields fields) = BaseModel.fieldsForbidden fields
  | [] => rfl
  | (key, value) :: rest => by
    rw [orderedFields, BaseModel.fieldsForbidden, BaseModel.fieldsForbidden,
      hasForbiddenKey_ordered value, fieldsForbidden_ordered rest]
end

/-- A document without forbidden keys has members without them. -/
theorem member_allowed (fields : JsonObject)
    (allowed : BaseModel.hasForbiddenKey (.obj fields) = false) (field : String × Json)
    (inFields : field ∈ fields) : BaseModel.hasForbiddenKey field.2 = false := by
  rw [BaseModel.hasForbiddenKey, fieldsForbidden_any, List.any_eq_false] at allowed
  have each := allowed field inFields
  simp only [Bool.or_eq_true, not_or, Bool.not_eq_true] at each
  exact each.2

/-- An array without forbidden keys has items without them. -/
theorem item_allowed (items : List Json) (allowed : BaseModel.hasForbiddenKey (.arr items) = false)
    (item : Json) (inItems : item ∈ items) : BaseModel.hasForbiddenKey item = false := by
  rw [BaseModel.hasForbiddenKey, itemsForbidden_any, List.any_eq_false] at allowed
  simpa using allowed item inItems

/-- The members of an object. -/
def membersOf : Json → JsonObject
  | .obj fields => fields
  | _ => []

/-- A document of the fields of a model, without forbidden keys, is read as its members, also
when it is ordered. -/
theorem document_ordered (names : List String) (value : Json) (isObject : value = .obj (membersOf value))
    (distinct : ((membersOf value).map Prod.fst).Nodup)
    (named : ∀ name ∈ (membersOf value).map Prod.fst, name = "schema_version" ∨ name ∈ names)
    (version : member (membersOf value) "schema_version" = some (.str "p0.v1"))
    (allowed : BaseModel.hasForbiddenKey value = false) :
    document names (ordered value) = some (orderedMembers (membersOf value)) := by
  generalize membersOf value = fields at isObject distinct named version ⊢
  subst isObject
  have allowedOrdered := (hasForbiddenKey_ordered (.obj fields)).trans allowed
  rw [ordered_obj] at allowedOrdered ⊢
  have namedOrdered : ∀ field ∈ orderedMembers fields,
      field.1 = "schema_version" ∨ field.1 ∈ names := by
    intro field inOrdered
    obtain ⟨original, inFields, rfl⟩ := List.mem_map.mp inOrdered
    exact named original.1 (List.mem_map.mpr ⟨original, (List.mem_insertionSort _).mp inFields, rfl⟩)
  have versionOrdered : (defaulted true (fun value => (literal ["p0.v1"] id value).map
      (fun _ => true)) (orderedMembers fields) "schema_version").isSome := by
    rw [defaulted, member_ordered fields distinct, version]
    rfl
  exact if_pos ⟨allowedOrdered, namedOrdered, versionOrdered⟩

/-! ## Fields read back -/

/-- A trimmed text reads as itself. -/
theorem str_of_trimmed {text : String} (trimmed : Trimmed text) : str (.str text) = some text :=
  congrArg some trimmed

/-- A trimmed text that is not empty reads as itself. -/
theorem nonEmptyStr_of_named {text : String} (named : Named text) :
    nonEmptyStr (.str text) = some text := by
  rw [nonEmptyStr, str_of_trimmed named.1]
  simp [named.2]

/-- An optional text reads as itself when the text does. -/
theorem optional_text (read : Json → Option String) (value : Option String)
    (reads : ∀ text, value = some text → read (.str text) = some text) :
    Validation.optional read (.optional value) = some value := by
  cases value with
  | none => rfl
  | some text =>
    simp only [Json.optional, Validation.optional, reads text rfl, Option.map_some]

/-- A natural number reads as itself. -/
theorem nonNegativeInt_nat (value : Nat) : nonNegativeInt (.nat value) = some value := by
  simp [nonNegativeInt, Json.nat]

/-- An optional natural number reads as itself. -/
theorem optional_nat (value : Option Nat) :
    Validation.optional nonNegativeInt ((value.map Json.nat).getD .null) = some value := by
  cases value with
  | none => rfl
  | some value =>
    have read := nonNegativeInt_nat value
    simp only [Json.nat] at read
    simp only [Option.map_some, Option.getD_some, Json.nat, Validation.optional, read]

/-- A result status reads as itself. -/
theorem literal_status (status : ResultEnvelopeStatus) :
    literal ResultEnvelopeStatus.literals ResultEnvelopeStatus.text (.str status.text) =
      some status := by
  cases status <;> rfl

/-- A backend class reads as itself. -/
theorem literal_backendClass (backendClass : BackendClass) :
    literal BackendClass.literals BackendClass.text (.str backendClass.text) =
      some backendClass := by
  cases backendClass <;> rfl

/-- An optional backend class reads as itself. -/
theorem optional_backendClass (value : Option BackendClass) :
    Validation.optional (literal BackendClass.literals BackendClass.text)
      (.optional (value.map BackendClass.text)) = some value := by
  cases value with
  | none => rfl
  | some backendClass =>
    simp only [Option.map_some, Json.optional, Validation.optional, literal_backendClass]

/-- A cost source reads as itself. -/
theorem literal_costSource (source : CostSource) :
    literal CostSource.literals CostSource.text (.str source.text) = some source := by
  cases source <;> rfl

/-- A cost confidence reads as itself. -/
theorem literal_costConfidence (confidence : CostConfidence) :
    literal CostConfidence.literals CostConfidence.text (.str confidence.text) =
      some confidence := by
  cases confidence <;> rfl

/-- A plain object is plain by key. -/
theorem plain_orderedMembers (fields : JsonObject) (written : plain (.obj fields) = true) :
    plain (.obj (orderedMembers fields)) = true := by
  have ordered_plain := plain_ordered (.obj fields) written
  rw [ordered_obj] at ordered_plain
  exact ordered_plain

/-- Validation leaves a mapping alone whose keys it leaves alone. -/
theorem ModelLibrary.mapping_of_keys (library : ModelLibrary) (fields : JsonObject)
    (written : plain (.obj fields) = true) (keys : ∀ field ∈ fields, library.key field.1 = field.1) :
    library.mapping fields = fields := by
  rw [plain, Bool.and_eq_true, decide_eq_true_eq] at written
  have same : fields.map (fun field => (library.key field.1, field.2)) = fields := by
    conv_rhs => rw [← List.map_id fields]
    apply List.map_congr_left
    intro field inFields
    simp [keys field inFields]
  rw [ModelLibrary.mapping, same, objectOf_distinct _ written.1]

/-- A settled mapping reads as itself by key. -/
theorem mapping_ordered (library : ModelLibrary) (fields : JsonObject)
    (settled : library.Settled fields) :
    mapping library (ordered (.obj fields)) = some (orderedMembers fields) := by
  have written := settled.plain
  have keys : ∀ field ∈ orderedMembers fields, library.key field.1 = field.1 := by
    intro field inOrdered
    obtain ⟨original, inFields, rfl⟩ := List.mem_map.mp inOrdered
    exact settled.keys original ((List.mem_insertionSort _).mp inFields)
  rw [ordered_obj]
  change some (library.mapping (orderedMembers fields)) = _
  rw [library.mapping_of_keys _ (plain_orderedMembers fields written) keys]

/-- Listed models read as themselves when each of them does. -/
theorem listOf_ordered {α : Type} (dump : α → Json) (read : Json → Option α) (reordered : α → α)
    (items : List α) (reads : ∀ item ∈ items, read (ordered (dump item)) = some (reordered item)) :
    listOf read (ordered (.arr (items.map dump))) = some (items.map reordered) := by
  rw [ordered, orderedItems_map, List.map_map]
  change ((items.map (ordered ∘ dump)).mapM read) = _
  induction items with
  | nil => rfl
  | cons item rest inductionHypothesis =>
    obtain ⟨here, later⟩ := List.forall_mem_cons.mp reads
    rw [List.map_cons, List.mapM_cons, Function.comp_apply, here, inductionHypothesis later]
    rfl

/-! ## Models read back -/

/-- A required field of an ordered document. -/
theorem required_ordered {α : Type} (read : Json → Option α) (fields : JsonObject)
    (distinct : (fields.map Prod.fst).Nodup) (name : String) :
    required read (orderedMembers fields) name =
      (member fields name).bind (fun value => read (ordered value)) := by
  rw [required, member_ordered fields distinct]
  cases member fields name <;> rfl

/-- A field of an ordered document with a default. -/
theorem defaulted_ordered {α : Type} (default : α) (read : Json → Option α) (fields : JsonObject)
    (distinct : (fields.map Prod.fst).Nodup) (name : String) :
    defaulted default read (orderedMembers fields) name =
      ((member fields name).map (fun value => read (ordered value))).getD (some default) := by
  rw [defaulted, member_ordered fields distinct]
  cases member fields name <;> rfl

/-- A required field of an ordered document that has it. -/
theorem required_of_member {α : Type} (read : Json → Option α) (fields : JsonObject)
    (distinct : (fields.map Prod.fst).Nodup) (name : String) {value : Json} {result : α}
    (here : member fields name = some value) (reads : read (ordered value) = some result) :
    required read (orderedMembers fields) name = some result := by
  rw [required_ordered read fields distinct, here]
  exact reads

/-- A field of an ordered document that has it needs no default. -/
theorem defaulted_of_member {α : Type} (default : α) (read : Json → Option α) (fields : JsonObject)
    (distinct : (fields.map Prod.fst).Nodup) (name : String) {value : Json} {result : α}
    (here : member fields name = some value) (reads : read (ordered value) = some result) :
    defaulted default read (orderedMembers fields) name = some result := by
  rw [defaulted_ordered default read fields distinct, here]
  exact reads

/-- A computation goes on with the value of its first step. -/
theorem bind_of_some {α β : Type} {first : Option α} {rest : α → Option β} {value : α}
    {result : Option β} (computed : first = some value) (later : rest value = result) :
    (first >>= rest) = result := by
  rw [computed]
  exact later

/-- Optional texts are ordered as they are. -/
@[simp] theorem ordered_optional (value : Option String) :
    ordered (.optional value) = .optional value := by
  cases value <;> rfl

/-- Texts are ordered as they are. -/
@[simp] theorem ordered_str (text : String) : ordered (.str text) = .str text := rfl

/-- Natural numbers are ordered as they are. -/
@[simp] theorem ordered_nat (value : Nat) : ordered (.nat value) = .nat value := rfl

/-- Truth values are ordered as they are. -/
@[simp] theorem ordered_bool (value : Bool) : ordered (.bool value) = .bool value := rfl

/-- A natural number reads as itself, ordered or not. -/
theorem nonNegativeInt_ordered (value : Nat) :
    nonNegativeInt (ordered (.nat value)) = some value := by
  rw [ordered_nat]
  exact nonNegativeInt_nat value

/-- The document of a validated artifact reference validates as it is. -/
theorem ArtifactRef.modelValidate_dump (library : ModelLibrary) (artifact : ArtifactRef)
    (valid : artifact.Valid library)
    (allowed : BaseModel.hasForbiddenKey artifact.modelDump = false) :
    ArtifactRef.modelValidate library (ordered artifact.modelDump) = some artifact.reordered := by
  have distinct : ((membersOf artifact.modelDump).map Prod.fst).Nodup := by
    change ["schema_version", "artifact_id", "uri", "media_type", "artifact_hash", "metadata"].Nodup
    decide
  have read := document_ordered
    ["artifact_id", "uri", "media_type", "artifact_hash", "metadata"] artifact.modelDump rfl distinct
    (by simp [membersOf, modelDump, schemaVersion]) rfl allowed
  rw [modelValidate, read]
  refine bind_of_some rfl ?_
  refine bind_of_some (required_of_member nonEmptyStr _ distinct "artifact_id" rfl
    (nonEmptyStr_of_named valid.artifactId)) ?_
  refine bind_of_some (required_of_member nonEmptyStr _ distinct "uri" rfl
    (nonEmptyStr_of_named valid.uri)) ?_
  refine bind_of_some (defaulted_of_member "application/octet-stream" nonEmptyStr _ distinct
    "media_type" rfl (nonEmptyStr_of_named valid.mediaType)) ?_
  refine bind_of_some (required_of_member nonEmptyStr _ distinct "artifact_hash" rfl
    (nonEmptyStr_of_named valid.artifactHash)) ?_
  refine bind_of_some (defaulted_of_member [] (mapping library) _ distinct "metadata" rfl
    (mapping_ordered library artifact.metadata valid.metadata)) ?_
  rfl

/-- The document of a validated usage record validates as it is. -/
theorem UsageRecord.modelValidate_dump (library : ModelLibrary) (usage : UsageRecord)
    (valid : usage.Valid library)
    (allowed : BaseModel.hasForbiddenKey usage.modelDump = false) :
    UsageRecord.modelValidate library (ordered usage.modelDump) = some usage := by
  have distinct : ((membersOf usage.modelDump).map Prod.fst).Nodup := by
    change ["schema_version", "usage_record_id", "work_unit_id", "attempt_id", "backend_id",
      "input_units", "output_units", "estimated_cost_micros", "actual_cost_micros", "cost_source",
      "cost_confidence", "recorded_at"].Nodup
    decide
  have dated : datetime library (ordered (.str usage.recordedAt)) = some usage.recordedAt :=
    valid.recordedAt
  have read := document_ordered ["usage_record_id", "work_unit_id", "attempt_id", "backend_id",
    "input_units", "output_units", "estimated_cost_micros", "actual_cost_micros", "cost_source",
    "cost_confidence", "recorded_at"] usage.modelDump rfl distinct
    (by simp [membersOf, modelDump, schemaVersion]) rfl allowed
  rw [modelValidate, read]
  refine bind_of_some rfl ?_
  refine bind_of_some (required_of_member nonEmptyStr _ distinct "usage_record_id" rfl
    (nonEmptyStr_of_named valid.usageRecordId)) ?_
  refine bind_of_some (required_of_member nonEmptyStr _ distinct "work_unit_id" rfl
    (nonEmptyStr_of_named valid.workUnitId)) ?_
  refine bind_of_some (required_of_member nonEmptyStr _ distinct "attempt_id" rfl
    (nonEmptyStr_of_named valid.attemptId)) ?_
  refine bind_of_some (required_of_member nonEmptyStr _ distinct "backend_id" rfl
    (nonEmptyStr_of_named valid.backendId)) ?_
  refine bind_of_some (defaulted_of_member (0 : Nat) nonNegativeInt _ distinct "input_units" rfl
    (nonNegativeInt_ordered usage.inputUnits)) ?_
  refine bind_of_some (defaulted_of_member (0 : Nat) nonNegativeInt _ distinct "output_units" rfl
    (nonNegativeInt_ordered usage.outputUnits)) ?_
  refine bind_of_some (defaulted_of_member (0 : Nat) nonNegativeInt _ distinct
    "estimated_cost_micros" rfl (nonNegativeInt_ordered usage.estimatedCostMicros)) ?_
  refine bind_of_some (defaulted_of_member (0 : Nat) nonNegativeInt _ distinct
    "actual_cost_micros" rfl (nonNegativeInt_ordered usage.actualCostMicros)) ?_
  refine bind_of_some (defaulted_of_member CostSource.notApplicable
    (literal CostSource.literals CostSource.text) _ distinct "cost_source" rfl
    (literal_costSource usage.costSource)) ?_
  refine bind_of_some (defaulted_of_member CostConfidence.notApplicable
    (literal CostConfidence.literals CostConfidence.text) _ distinct "cost_confidence" rfl
    (literal_costConfidence usage.costConfidence)) ?_
  refine bind_of_some (defaulted_of_member library.now (datetime library) _ distinct "recorded_at"
    rfl dated) ?_
  rfl

/-- The document of a validated backend error validates as it is. -/
theorem BackendError.modelValidate_dump (library : ModelLibrary) (error : BackendError)
    (valid : error.Valid library)
    (allowed : BaseModel.hasForbiddenKey error.modelDump = false) :
    BackendError.modelValidate library (ordered error.modelDump) = some error.reordered := by
  have distinct : ((membersOf error.modelDump).map Prod.fst).Nodup := by
    change ["schema_version", "error_code", "error_message", "retryable", "fallbackable",
      "redacted_details", "occurred_at"].Nodup
    decide
  have dated : datetime library (ordered (.str error.occurredAt)) = some error.occurredAt :=
    valid.occurredAt
  have truth (value : Bool) : boolean (ordered (.bool value)) = some value := rfl
  have read := document_ordered ["error_code", "error_message", "retryable", "fallbackable",
    "redacted_details", "occurred_at"] error.modelDump rfl distinct
    (by simp [membersOf, modelDump, schemaVersion]) rfl allowed
  rw [modelValidate, read]
  refine bind_of_some rfl ?_
  refine bind_of_some (required_of_member nonEmptyStr _ distinct "error_code" rfl
    (nonEmptyStr_of_named valid.errorCode)) ?_
  refine bind_of_some (required_of_member nonEmptyStr _ distinct "error_message" rfl
    (nonEmptyStr_of_named valid.errorMessage)) ?_
  refine bind_of_some (defaulted_of_member false boolean _ distinct "retryable" rfl
    (truth error.retryable)) ?_
  refine bind_of_some (defaulted_of_member false boolean _ distinct "fallbackable" rfl
    (truth error.fallbackable)) ?_
  refine bind_of_some (defaulted_of_member [] (mapping library) _ distinct "redacted_details" rfl
    (mapping_ordered library error.redactedDetails valid.redactedDetails)) ?_
  refine bind_of_some (defaulted_of_member library.now (datetime library) _ distinct "occurred_at"
    rfl dated) ?_
  rfl

section Envelope

variable {library : ModelLibrary} {envelope : WorkUnitResultEnvelope}

/-- The items of a listed member have no forbidden key. -/
theorem listed_allowed (fields : JsonObject)
    (allowed : BaseModel.hasForbiddenKey (.obj fields) = false) {α : Type} (dump : α → Json)
    (items : List α) (name : String) (inFields : (name, Json.arr (items.map dump)) ∈ fields) :
    ∀ item ∈ items, BaseModel.hasForbiddenKey (dump item) = false := by
  intro item inItems
  exact item_allowed _ (member_allowed fields allowed _ inFields) _
    (List.mem_map.mpr ⟨item, inItems, rfl⟩)

/-- An optional error of a document without forbidden keys reads as it is. -/
theorem optional_error (value : Option BackendError)
    (valid : ∀ error, value = some error → error.Valid library)
    (allowed : BaseModel.hasForbiddenKey ((value.map BackendError.modelDump).getD .null) = false) :
    Validation.optional (BackendError.modelValidate library)
        (ordered ((value.map BackendError.modelDump).getD .null)) =
      some (value.map BackendError.reordered) := by
  cases value with
  | none => rfl
  | some error =>
    have read := BackendError.modelValidate_dump library error (valid error rfl) allowed
    simp only [Option.map_some, Option.getD_some] at read ⊢
    rw [BackendError.modelDump, ordered_obj] at read ⊢
    simp only [Validation.optional, read, Option.map_some]

/-- An optional number is ordered as it is. -/
theorem optional_nat_ordered (value : Option Nat) :
    Validation.optional nonNegativeInt (ordered ((value.map Json.nat).getD .null)) = some value := by
  cases value with
  | none => rfl
  | some value => exact optional_nat (some value)

/-- The document of a validated envelope validates as it is, up to the order of members, if
it has no forbidden key. -/
theorem WorkUnitResultEnvelope.modelValidate_dump (valid : envelope.Valid library)
    (allowed : BaseModel.hasForbiddenKey envelope.modelDump = false) :
    WorkUnitResultEnvelope.modelValidate library (ordered envelope.modelDump) =
      some envelope.reordered := by
  have distinct : ((membersOf envelope.modelDump).map Prod.fst).Nodup := by
    change ("schema_version" :: WorkUnitResultEnvelope.fieldNames).Nodup
    decide
  have named : ∀ name ∈ (membersOf envelope.modelDump).map Prod.fst,
      name = "schema_version" ∨ name ∈ fieldNames := by
    change ∀ name ∈ "schema_version" :: fieldNames, name = "schema_version" ∨ name ∈ fieldNames
    simp
  have read := document_ordered fieldNames envelope.modelDump rfl distinct named rfl allowed
  have artifacts : listOf (ArtifactRef.modelValidate library)
      (ordered (.arr (envelope.artifactRefs.map ArtifactRef.modelDump))) =
        some (envelope.artifactRefs.map ArtifactRef.reordered) :=
    listOf_ordered _ _ _ _ (fun artifact inArtifacts =>
      ArtifactRef.modelValidate_dump library artifact (valid.artifactRefs artifact inArtifacts)
        (listed_allowed _ allowed ArtifactRef.modelDump envelope.artifactRefs "artifact_refs"
          (by simp [dumpWithStatus]) artifact inArtifacts))
  have usages : listOf (UsageRecord.modelValidate library)
      (ordered (.arr (envelope.usageRecords.map UsageRecord.modelDump))) =
        some (envelope.usageRecords.map id) :=
    listOf_ordered _ _ _ _ (fun usage inUsages =>
      UsageRecord.modelValidate_dump library usage (valid.usageRecords usage inUsages)
        (listed_allowed _ allowed UsageRecord.modelDump envelope.usageRecords "usage_records"
          (by simp [dumpWithStatus]) usage inUsages))
  have logs : listOf str (ordered (.arr (envelope.redactedLogs.map .str))) =
      some (envelope.redactedLogs.map id) :=
    listOf_ordered _ _ _ _ (fun text inLogs => str_of_trimmed (valid.redactedLogs text inLogs))
  have errors : listOf (BackendError.modelValidate library)
      (ordered (.arr (envelope.errors.map BackendError.modelDump))) =
        some (envelope.errors.map BackendError.reordered) :=
    listOf_ordered _ _ _ _ (fun error inErrors =>
      BackendError.modelValidate_dump library error (valid.errors error inErrors)
        (listed_allowed _ allowed BackendError.modelDump envelope.errors "errors"
          (by simp [dumpWithStatus]) error inErrors))
  have backendError := optional_error envelope.backendError valid.backendError
    (member_allowed _ allowed
      ("backend_error", (envelope.backendError.map BackendError.modelDump).getD .null)
      (by simp [dumpWithStatus]))
  have texts (read : Json → Option String) (value : Option String)
      (reads : ∀ text, value = some text → read (.str text) = some text) :
      Validation.optional read (ordered (.optional value)) = some value := by
    rw [ordered_optional]
    exact optional_text read value reads
  have backendClass : Validation.optional (literal BackendClass.literals BackendClass.text)
      (ordered (.optional (envelope.backendClass.map BackendClass.text))) =
        some envelope.backendClass := by
    rw [ordered_optional]
    exact optional_backendClass envelope.backendClass
  have completed : datetime library (ordered (.str envelope.completedAt)) =
      some envelope.completedAt := valid.completedAt
  rw [modelValidate, read]
  refine bind_of_some rfl ?_
  refine bind_of_some (required_of_member nonEmptyStr _ distinct "result_envelope_id" rfl
    (nonEmptyStr_of_named valid.resultEnvelopeId)) ?_
  refine bind_of_some (required_of_member nonEmptyStr _ distinct "work_unit_id" rfl
    (nonEmptyStr_of_named valid.workUnitId)) ?_
  refine bind_of_some (required_of_member nonEmptyStr _ distinct "run_id" rfl
    (nonEmptyStr_of_named valid.runId)) ?_
  refine bind_of_some (required_of_member nonEmptyStr _ distinct "attempt_id" rfl
    (nonEmptyStr_of_named valid.attemptId)) ?_
  refine bind_of_some (required_of_member nonEmptyStr _ distinct "assignment_id" rfl
    (nonEmptyStr_of_named valid.assignmentId)) ?_
  refine bind_of_some (required_of_member _ _ distinct "status" rfl
    (literal_status envelope.status)) ?_
  refine bind_of_some (defaulted_of_member none _ _ distinct "backend_id" rfl
    (texts nonEmptyStr envelope.backendId
      (fun text here => nonEmptyStr_of_named (valid.backendId text here)))) ?_
  refine bind_of_some (defaulted_of_member none _ _ distinct "backend_class" rfl backendClass) ?_
  refine bind_of_some (defaulted_of_member none _ _ distinct "provider_id" rfl
    (texts str envelope.providerId
      (fun text here => str_of_trimmed (valid.providerId text here)))) ?_
  refine bind_of_some (defaulted_of_member none _ _ distinct "model_id" rfl
    (texts str envelope.modelId (fun text here => str_of_trimmed (valid.modelId text here)))) ?_
  refine bind_of_some (defaulted_of_member none _ _ distinct "worker_id" rfl
    (texts str envelope.workerId (fun text here => str_of_trimmed (valid.workerId text here)))) ?_
  refine bind_of_some (defaulted_of_member none _ _ distinct "capacity_node_id" rfl
    (texts str envelope.capacityNodeId
      (fun text here => str_of_trimmed (valid.capacityNodeId text here)))) ?_
  refine bind_of_some (defaulted_of_member [] _ _ distinct "output" rfl
    (mapping_ordered library envelope.output valid.output)) ?_
  refine bind_of_some (required_of_member nonEmptyStr _ distinct "output_hash" rfl
    (nonEmptyStr_of_named valid.outputHash)) ?_
  refine bind_of_some (required_of_member nonEmptyStr _ distinct "result_hash" rfl
    (nonEmptyStr_of_named valid.resultHash)) ?_
  refine bind_of_some (defaulted_of_member [] _ _ distinct "artifact_refs" rfl artifacts) ?_
  refine bind_of_some (defaulted_of_member [] _ _ distinct "usage_records" rfl usages) ?_
  refine bind_of_some (defaulted_of_member (0 : Nat) nonNegativeInt _ distinct "cost_estimate_micros" rfl
    (nonNegativeInt_ordered envelope.costEstimateMicros)) ?_
  refine bind_of_some (defaulted_of_member (0 : Nat) nonNegativeInt _ distinct "actual_cost_micros" rfl
    (nonNegativeInt_ordered envelope.actualCostMicros)) ?_
  refine bind_of_some (defaulted_of_member CostSource.notApplicable
    (literal CostSource.literals CostSource.text) _ distinct "cost_source" rfl
    (literal_costSource envelope.costSource)) ?_
  refine bind_of_some (defaulted_of_member CostConfidence.notApplicable
    (literal CostConfidence.literals CostConfidence.text) _ distinct "cost_confidence" rfl
    (literal_costConfidence envelope.costConfidence)) ?_
  refine bind_of_some (defaulted_of_member [] _ _ distinct "redacted_logs" rfl logs) ?_
  refine bind_of_some (defaulted_of_member [] _ _ distinct "errors" rfl errors) ?_
  refine bind_of_some (defaulted_of_member none _ _ distinct "backend_error" rfl backendError) ?_
  refine bind_of_some (defaulted_of_member none _ _ distinct "started_at" rfl
    (texts (datetime library) envelope.startedAt valid.startedAt)) ?_
  refine bind_of_some (defaulted_of_member library.now _ _ distinct "completed_at" rfl completed) ?_
  refine bind_of_some (defaulted_of_member none _ _ distinct "duration_ms" rfl
    (optional_nat_ordered envelope.durationMs)) ?_
  simp only [List.map_id]
  rfl

/-- A validated document has no forbidden key. -/
theorem allowed_of_validated (value : Json) (received : WorkUnitResultEnvelope)
    (validated : WorkUnitResultEnvelope.modelValidate library value = some received) :
    BaseModel.hasForbiddenKey value = false := by
  obtain ⟨fields, read, -⟩ := Option.bind_eq_some_iff.mp validated
  unfold document at read
  split at read
  · split at read
    · rename_i checked
      exact checked.1
    · cases read
  · cases read

/-! ## Plain documents -/

/-- A string is plain. -/
@[simp] theorem plain_str (text : String) : plain (.str text) = true := rfl

/-- An optional string is plain. -/
@[simp] theorem plain_optional (value : Option String) : plain (.optional value) = true := by
  cases value <;> rfl

/-- A natural number is plain. -/
@[simp] theorem plain_nat (value : Nat) : plain (.nat value) = true := rfl

/-- A truth value is plain. -/
@[simp] theorem plain_bool (value : Bool) : plain (.bool value) = true := rfl

/-- An array of plain items is plain. -/
theorem plain_arr {α : Type} (dump : α → Json) (items : List α)
    (each : ∀ item ∈ items, plain (dump item) = true) : plain (.arr (items.map dump)) = true := by
  rw [plain, plainItems_iff]
  intro value inItems
  obtain ⟨item, stored, rfl⟩ := List.mem_map.mp inItems
  exact each item stored

/-- A document of plain members under distinct names is plain. -/
theorem plain_obj (fields : JsonObject) (names : List String) (keys : fields.map Prod.fst = names)
    (distinct : names.Nodup) (members : plainFields fields = true) :
    plain (.obj fields) = true := by
  rw [plain, keys, members, decide_eq_true distinct]
  rfl

/-- The document of a usage record is plain. -/
theorem UsageRecord.plain_dump (usage : UsageRecord) : plain usage.modelDump = true := by
  apply plain_obj _ ["schema_version", "usage_record_id", "work_unit_id", "attempt_id",
    "backend_id", "input_units", "output_units", "estimated_cost_micros", "actual_cost_micros",
    "cost_source", "cost_confidence", "recorded_at"] rfl (by decide)
  simp [plainFields, schemaVersion]

/-- The document of a backend error with plain details is plain. -/
theorem BackendError.plain_dump (error : BackendError)
    (details : plain (.obj error.redactedDetails) = true) : plain error.modelDump = true := by
  apply plain_obj _ ["schema_version", "error_code", "error_message", "retryable", "fallbackable",
    "redacted_details", "occurred_at"] rfl (by decide)
  simp [plainFields, schemaVersion, details]

/-- The document of an artifact reference with plain metadata is plain. -/
theorem ArtifactRef.plain_dump (artifact : ArtifactRef)
    (metadata : plain (.obj artifact.metadata) = true) : plain artifact.modelDump = true := by
  apply plain_obj _ ["schema_version", "artifact_id", "uri", "media_type", "artifact_hash",
    "metadata"] rfl (by decide)
  simp [plainFields, schemaVersion, metadata]

/-- The document of a validated envelope is plain. -/
theorem WorkUnitResultEnvelope.plain_dump (valid : envelope.Valid library) :
    plain envelope.modelDump = true := by
  have artifacts := plain_arr ArtifactRef.modelDump envelope.artifactRefs (fun artifact inArtifacts =>
    artifact.plain_dump (valid.artifactRefs artifact inArtifacts).metadata.plain)
  have usages := plain_arr UsageRecord.modelDump envelope.usageRecords (fun usage _ =>
    usage.plain_dump)
  have logs := plain_arr Json.str envelope.redactedLogs (fun _ _ => rfl)
  have errors := plain_arr BackendError.modelDump envelope.errors (fun error inErrors =>
    error.plain_dump (valid.errors error inErrors).redactedDetails.plain)
  have backendError : plain ((envelope.backendError.map BackendError.modelDump).getD .null) =
      true := by
    cases here : envelope.backendError with
    | none => rfl
    | some error => exact error.plain_dump (valid.backendError error here).redactedDetails.plain
  have duration : plain ((envelope.durationMs.map Json.nat).getD .null) = true := by
    cases envelope.durationMs <;> rfl
  apply plain_obj _ ("schema_version" :: WorkUnitResultEnvelope.fieldNames) rfl (by decide)
  simp only [dumpWithStatus, plainFields, schemaVersion, plain_str, plain_optional, plain_nat,
    valid.output.plain, artifacts, usages, logs, errors, backendError, duration, Bool.and_true]

/-- The stored text of a validated envelope, parsed and validated, satisfies what does not
depend on the order of members exactly if the envelope does and has no forbidden key. -/
theorem WorkUnitResultEnvelope.revalidated_iff (valid : envelope.Valid library)
    (holds : WorkUnitResultEnvelope → Prop) (blind : holds envelope.reordered ↔ holds envelope) :
    (∃ document received, jsonLoads (canonicalJsonDumps envelope.modelDump) = some document ∧
        WorkUnitResultEnvelope.modelValidate library document = some received ∧ holds received) ↔
      BaseModel.hasForbiddenKey envelope.modelDump = false ∧ holds envelope := by
  rw [jsonLoads_canonicalJsonDumps _ (WorkUnitResultEnvelope.plain_dump valid)]
  constructor
  · rintro ⟨document, received, parsed, validated, here⟩
    have same_document := Option.some.inj parsed
    subst same_document
    have allowed := allowed_of_validated _ received validated
    rw [hasForbiddenKey_ordered] at allowed
    rw [WorkUnitResultEnvelope.modelValidate_dump valid allowed] at validated
    have same_envelope := Option.some.inj validated
    subst same_envelope
    exact ⟨allowed, blind.mp here⟩
  · rintro ⟨allowed, here⟩
    exact ⟨_, _, rfl, WorkUnitResultEnvelope.modelValidate_dump valid allowed, blind.mpr here⟩

end Envelope

/-! ## Forbidden keys of dumped documents -/

/-- Whether members under allowed keys have a forbidden key depends on their values. -/
theorem hasForbiddenKey_named (fields : JsonObject) (names : List String)
    (keys : fields.map Prod.fst = names) (allowed : names.all (fun name =>
      !BaseModel.forbiddenKey name) = true) :
    BaseModel.hasForbiddenKey (.obj fields) =
      (fields.map Prod.snd).any BaseModel.hasForbiddenKey := by
  subst keys
  rw [BaseModel.hasForbiddenKey, fieldsForbidden_any, List.any_map]
  have each : ∀ field ∈ fields, BaseModel.forbiddenKey field.1 = false := by
    intro field inFields
    have here := List.all_eq_true.mp allowed field.1 (List.mem_map.mpr ⟨field, inFields, rfl⟩)
    simpa using here
  clear allowed
  induction fields with
  | nil => rfl
  | cons field rest inductionHypothesis =>
    rw [List.any_cons, List.any_cons, each field List.mem_cons_self, Bool.false_or,
      inductionHypothesis (fun other later => each other (List.mem_cons_of_mem field later))]
    rfl

/-- Texts have no keys. -/
@[simp] theorem hasForbiddenKey_str (text : String) :
    BaseModel.hasForbiddenKey (.str text) = false := rfl

/-- Optional texts have no keys. -/
@[simp] theorem hasForbiddenKey_optional (value : Option String) :
    BaseModel.hasForbiddenKey (.optional value) = false := by
  cases value <;> rfl

/-- Numbers have no keys. -/
@[simp] theorem hasForbiddenKey_nat (value : Nat) :
    BaseModel.hasForbiddenKey (.nat value) = false := rfl

/-- Truth values have no keys. -/
@[simp] theorem hasForbiddenKey_bool (value : Bool) :
    BaseModel.hasForbiddenKey (.bool value) = false := rfl

/-- The document of a usage record has no forbidden key. -/
theorem UsageRecord.allowed_dump (usage : UsageRecord) :
    BaseModel.hasForbiddenKey usage.modelDump = false := by
  rw [UsageRecord.modelDump, hasForbiddenKey_named _ ["schema_version", "usage_record_id",
    "work_unit_id", "attempt_id", "backend_id", "input_units", "output_units",
    "estimated_cost_micros", "actual_cost_micros", "cost_source", "cost_confidence",
    "recorded_at"] rfl (by decide +kernel)]
  simp [schemaVersion]

/-- The document of a backend error has the forbidden keys of its details. -/
theorem BackendError.hasForbiddenKey_dump (error : BackendError) :
    BaseModel.hasForbiddenKey error.modelDump =
      BaseModel.hasForbiddenKey (.obj error.redactedDetails) := by
  rw [BackendError.modelDump, hasForbiddenKey_named _ ["schema_version", "error_code",
    "error_message", "retryable", "fallbackable", "redacted_details", "occurred_at"] rfl
    (by decide +kernel)]
  simp [schemaVersion]

/-- The document of an artifact reference has the forbidden keys of its metadata. -/
theorem ArtifactRef.hasForbiddenKey_dump (artifact : ArtifactRef) :
    BaseModel.hasForbiddenKey artifact.modelDump =
      BaseModel.hasForbiddenKey (.obj artifact.metadata) := by
  rw [ArtifactRef.modelDump, hasForbiddenKey_named _ ["schema_version", "artifact_id", "uri",
    "media_type", "artifact_hash", "metadata"] rfl (by decide +kernel)]
  simp [schemaVersion]

/-- The document of an envelope has no forbidden key exactly if no free-form mapping has. -/
theorem WorkUnitResultEnvelope.allowed_dump_iff (envelope : WorkUnitResultEnvelope) :
    BaseModel.hasForbiddenKey envelope.modelDump = false ↔
      BaseModel.hasForbiddenKey (.obj envelope.output) = false ∧
      (∀ artifact ∈ envelope.artifactRefs,
        BaseModel.hasForbiddenKey (.obj artifact.metadata) = false) ∧
      (∀ error ∈ envelope.errors,
        BaseModel.hasForbiddenKey (.obj error.redactedDetails) = false) ∧
      ∀ error, envelope.backendError = some error →
        BaseModel.hasForbiddenKey (.obj error.redactedDetails) = false := by
  have arrays {α : Type} (dump : α → Json) (items : List α) :
      BaseModel.hasForbiddenKey (.arr (items.map dump)) =
        items.any (fun item => BaseModel.hasForbiddenKey (dump item)) := by
    rw [BaseModel.hasForbiddenKey, itemsForbidden_any, List.any_map]
    rfl
  have backendError : BaseModel.hasForbiddenKey
      ((envelope.backendError.map BackendError.modelDump).getD .null) = false ↔
        ∀ error, envelope.backendError = some error →
          BaseModel.hasForbiddenKey (.obj error.redactedDetails) = false := by
    cases envelope.backendError with
    | none => simp [BaseModel.hasForbiddenKey]
    | some error => simp [error.hasForbiddenKey_dump]
  have duration : BaseModel.hasForbiddenKey ((envelope.durationMs.map Json.nat).getD .null) =
      false := by
    cases envelope.durationMs <;> rfl
  rw [WorkUnitResultEnvelope.modelDump, hasForbiddenKey_named _
    ("schema_version" :: WorkUnitResultEnvelope.fieldNames) rfl (by decide +kernel)]
  simp [dumpWithStatus, schemaVersion, arrays, duration, backendError,
    BackendError.hasForbiddenKey_dump, ArtifactRef.hasForbiddenKey_dump, UsageRecord.allowed_dump]

/-! ## Free-form mappings validated -/

/-- A member put among others leaves their keys distinct. -/
theorem putMember_distinct (fields : JsonObject) (field : String × Json)
    (distinct : (fields.map Prod.fst).Nodup) : ((putMember fields field).map Prod.fst).Nodup := by
  unfold putMember
  split
  · have keys : (fields.map (fun earlier => if earlier.1 = field.1 then field else earlier)).map
        Prod.fst = fields.map Prod.fst := by
      rw [List.map_map]
      apply List.map_congr_left
      intro earlier _
      simp only [Function.comp_apply]
      split
      · rename_i same
        exact same.symm
      · rfl
    rw [keys]
    exact distinct
  · rename_i absent
    rw [List.map_append, List.nodup_append]
    exact ⟨distinct, by simp, by
      intro key inFields other isNew same
      have sameKey := List.mem_singleton.mp isNew
      exact absent (sameKey ▸ same ▸ inFields)⟩

/-- A member put among others is the only new one. -/
theorem mem_putMember (fields : JsonObject) (field other : String × Json)
    (member : other ∈ putMember fields field) : other ∈ fields ∨ other = field := by
  unfold putMember at member
  split at member
  · obtain ⟨earlier, stored, replaced⟩ := List.mem_map.mp member
    split at replaced
    · exact .inr replaced.symm
    · exact .inl (replaced ▸ stored)
  · simpa using member

/-- An object has each key once, and its members are among those it was given. -/
theorem objectOf_spec (members : List (String × Json)) :
    ((objectOf members).map Prod.fst).Nodup ∧ ∀ field ∈ objectOf members, field ∈ members := by
  have general (fields later : List (String × Json)) (distinct : (fields.map Prod.fst).Nodup) :
      ((later.foldl putMember fields).map Prod.fst).Nodup ∧
        ∀ field ∈ later.foldl putMember fields, field ∈ fields ∨ field ∈ later := by
    induction later generalizing fields with
    | nil => exact ⟨distinct, fun field stored => .inl stored⟩
    | cons next rest inductionHypothesis =>
      obtain ⟨each, among⟩ :=
        inductionHypothesis (putMember fields next) (putMember_distinct fields next distinct)
      refine ⟨each, fun field stored => ?_⟩
      rcases among field stored with put | later
      · exact (mem_putMember fields next field put).imp_right (fun same => by simp [same])
      · exact .inr (List.mem_cons_of_mem next later)
  obtain ⟨distinct, among⟩ := general [] members List.nodup_nil
  exact ⟨distinct, fun field stored => (among field stored).resolve_left List.not_mem_nil⟩

/-- A validated mapping is settled. -/
theorem ModelLibrary.settled_mapping (library : ModelLibrary) (fields : JsonObject)
    (written : plain (.obj fields) = true) : library.Settled (library.mapping fields) := by
  obtain ⟨distinct, among⟩ :=
    objectOf_spec (fields.map (fun field => (library.key field.1, field.2)))
  rw [plain, Bool.and_eq_true, plainFields_iff] at written
  refine ⟨?_, ?_⟩
  · rw [plain, Bool.and_eq_true, decide_eq_true_eq, plainFields_iff]
    refine ⟨distinct, fun field stored => ?_⟩
    obtain ⟨original, inFields, rfl⟩ := List.mem_map.mp (among field stored)
    exact written.2 original inFields
  · intro field stored
    obtain ⟨original, inFields, rfl⟩ := List.mem_map.mp (among field stored)
    exact library.key_key original.1

/-- A mapping keeps its canonical text under validation exactly if validation leaves its keys
alone. -/
theorem ModelLibrary.mapping_text_iff (library : ModelLibrary) (fields : JsonObject)
    (written : plain (.obj fields) = true) :
    canonicalJsonDumps (.obj fields) = canonicalJsonDumps (.obj (library.mapping fields)) ↔
      ∀ field ∈ fields, library.key field.1 = field.1 := by
  have settled := library.settled_mapping fields written
  constructor
  · intro same field inFields
    have same_ordered := ordered_of_same_text _ _ written settled.plain same
    rw [ordered_obj, ordered_obj, Json.obj.injEq] at same_ordered
    have inOrdered : (field.1, ordered field.2) ∈ orderedMembers (library.mapping fields) := by
      rw [orderedMembers, ← same_ordered]
      exact List.mem_map.mpr ⟨field, (List.mem_insertionSort _).mpr inFields, rfl⟩
    obtain ⟨original, stored, same_field⟩ := List.mem_map.mp inOrdered
    have same_key : original.1 = field.1 := (Prod.mk.inj same_field).1
    rw [← same_key]
    exact settled.keys original ((List.mem_insertionSort _).mp stored)
  · intro keys
    rw [library.mapping_of_keys fields written keys]

end TokenBank
