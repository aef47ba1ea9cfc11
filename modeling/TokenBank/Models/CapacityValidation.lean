import TokenBank.Models.CapacityRereading

/-!
# What validating a manifest yields

A document that validates gives a validated manifest. Validated at another moment it gives the
same manifest but for the timestamps that the document leaves out, so whether it validates does
not depend on the moment.
-/

namespace TokenBank

open Canonical Validation

/-! ## Fields of a validated document -/

/-- What reading establishes holds of a field that has to be there. -/
theorem required_holds {α : Type} {read : Json → Option α} (holds : α → Prop)
    (reads : ∀ value result, read value = some result → holds result) {fields : JsonObject}
    {name : String} {result : α} (here : required read fields name = some result) :
    holds result := by
  obtain ⟨value, -, read_value⟩ := Option.bind_eq_some_iff.mp here
  exact reads value result read_value

/-- What reading establishes holds of a field whose default has it. -/
theorem defaulted_holds {α : Type} {default : α} {read : Json → Option α} (holds : α → Prop)
    (initially : holds default) (reads : ∀ value result, read value = some result → holds result)
    {fields : JsonObject} {name : String} {result : α}
    (here : defaulted default read fields name = some result) : holds result := by
  unfold defaulted at here
  split at here
  · exact Option.some.inj here ▸ initially
  · exact reads _ result here

/-- A trimmed text does not end with a blank. -/
theorem trimmed_last (text : String) (trimmed : Trimmed text) :
    (text.toList.getLast?.all (fun character => !BaseModel.whiteSpace character)) = true := by
  have characters := congrArg String.toList trimmed
  rw [BaseModel.stripped, String.toList_ofList] at characters
  rw [← characters, List.getLast?_reverse]
  have stays := List.head?_dropWhile_not BaseModel.whiteSpace
    (text.toList.dropWhile BaseModel.whiteSpace).reverse
  cases first : ((text.toList.dropWhile BaseModel.whiteSpace).reverse.dropWhile
      BaseModel.whiteSpace).head? with
  | none => rfl
  | some character =>
    rw [first] at stays
    simpa using stays

/-- A text that reads is trimmed. -/
theorem str_trimmed (value : Json) (text : String) (here : str value = some text) :
    Trimmed text := by
  cases value with
  | str given => exact Option.some.inj here ▸ trimmed_stripped given
  | _ => cases here

/-- A text that must not be empty reads as a trimmed text that is not. -/
theorem nonEmptyStr_named (value : Json) (text : String) (here : nonEmptyStr value = some text) :
    Named text := by
  obtain ⟨read, filled⟩ := Option.filter_eq_some_iff.mp here
  exact ⟨str_trimmed value text read, by simpa using filled⟩

/-- What reading establishes holds of every item of a list. -/
theorem listOf_holds {α : Type} {read : Json → Option α} (holds : α → Prop)
    (reads : ∀ value result, read value = some result → holds result) (value : Json)
    (results : List α) (here : listOf read value = some results) :
    ∀ result ∈ results, holds result := by
  cases value with
  | arr items =>
    change items.mapM read = some results at here
    induction items generalizing results with
    | nil =>
      cases here
      simp
    | cons item rest inductionHypothesis =>
      rw [List.mapM_cons] at here
      obtain ⟨first, read_first, later⟩ := Option.bind_eq_some_iff.mp here
      obtain ⟨others, read_others, same⟩ := Option.bind_eq_some_iff.mp later
      cases same
      intro result member
      rcases List.mem_cons.mp member with rfl | among
      · exact reads item result read_first
      · exact inductionHypothesis others read_others result among
  | _ => cases here

/-- What reading establishes holds of an optional value that is there. -/
theorem optional_holds {α : Type} {read : Json → Option α} (holds : α → Prop)
    (reads : ∀ value result, read value = some result → holds result) (value : Json)
    (result : Option α) (here : Validation.optional read value = some result) :
    ∀ present, result = some present → holds present := by
  rintro present rfl
  unfold Validation.optional at here
  split at here
  · cases here
  · obtain ⟨found, read_found, same⟩ := Option.map_eq_some_iff.mp here
    exact Option.some.inj same ▸ reads value found read_found

/-- The value of a member of a plain object is plain. -/
theorem member_plain (fields : JsonObject) (written : plain (.obj fields) = true) (name : String)
    (value : Json) (here : member fields name = some value) : plain value = true := by
  obtain ⟨field, found, rfl⟩ := Option.map_eq_some_iff.mp here
  rw [plain, Bool.and_eq_true, plainFields_iff] at written
  exact written.2 field (List.mem_of_find?_eq_some found)

/-- A field that is a mapping is settled. -/
theorem mapping_settled (library : ModelLibrary) (fields : JsonObject)
    (written : plain (.obj fields) = true) (name : String) (result : JsonObject)
    (here : defaulted [] (mapping library) fields name = some result) :
    library.Settled result := by
  unfold defaulted at here
  split at here
  · cases here
    exact ⟨rfl, by simp⟩
  · rename_i value found
    cases value with
    | obj members =>
      cases here
      exact library.settled_mapping members (member_plain fields written name _ found)
    | _ => cases here

/-- The members of a document are those of the object it is. -/
theorem document_members (names : List String) (value : Json) (fields : JsonObject)
    (read : document names value = some fields) : value = .obj fields := by
  unfold document at read
  split at read
  · split at read
    · cases read
      rfl
    · cases read
  · cases read

/-- A computation that succeeds goes on with the value of its first step. -/
theorem bind_some {α β : Type} {first : Option α} {rest : α → Option β} {result : β}
    (computed : (first >>= rest) = some result) :
    ∃ value, first = some value ∧ rest value = some result :=
  Option.bind_eq_some_iff.mp computed

/-! ## Validated manifests -/

namespace CapacityLibrary

variable (library : CapacityLibrary) {now : String}

/-- A datetime reads as a text that reads as itself. -/
theorem datetime_dated (value : Json) (text : String)
    (here : datetime (library.at now) value = some text) : library.Dated text := by
  cases value with
  | str given => exact library.rereads given text here
  | _ => cases here

/-- A timestamp of a document is a datetime. -/
theorem timestamp_dated {fields : JsonObject} {name text : String}
    (here : defaulted (library.at now).now (datetime (library.at now)) fields name = some text)
    (dated : library.Dated now) : library.Dated text :=
  defaulted_holds (fun text => library.Dated text) dated library.datetime_dated here

end CapacityLibrary

/-- The default cost model is validated. -/
theorem CostModel.valid_default : ({} : CostModel).Valid := ⟨by decide +kernel⟩

/-- A document that validates gives a validated cost model. -/
theorem CostModel.valid_of_validated (value : Json) (cost : CostModel)
    (validated : CostModel.modelValidate value = some cost) : cost.Valid := by
  obtain ⟨_, -, later⟩ := bind_some validated
  obtain ⟨_, unit, later⟩ := bind_some later
  obtain ⟨_, -, later⟩ := bind_some later
  obtain ⟨_, -, later⟩ := bind_some later
  cases later
  exact ⟨defaulted_holds Named (by decide +kernel) nonEmptyStr_named unit⟩

/-- A document that validates gives the validated health of a backend. -/
theorem BackendHealth.valid_of_validated (library : CapacityLibrary) (now : String)
    (dated : library.Dated now) (value : Json) (health : BackendHealth)
    (validated : BackendHealth.modelValidate (library.at now) value = some health) :
    health.Valid library.toModelLibrary := by
  obtain ⟨_, -, later⟩ := bind_some validated
  obtain ⟨_, backendId, later⟩ := bind_some later
  obtain ⟨_, -, later⟩ := bind_some later
  obtain ⟨_, checkedAt, later⟩ := bind_some later
  obtain ⟨_, -, later⟩ := bind_some later
  obtain ⟨_, message, later⟩ := bind_some later
  cases later
  exact {
    backendId := required_holds Named nonEmptyStr_named backendId
    checkedAt := library.timestamp_dated checkedAt dated
    message := defaulted_holds (fun message => ∀ text, message = some text → Trimmed text) (by simp)
      (optional_holds Trimmed str_trimmed) message }

/-- A plain document that validates gives a validated backend manifest. -/
theorem BackendManifest.valid_of_validated (library : CapacityLibrary) (now : String)
    (dated : library.Dated now) (value : Json) (written : plain value = true)
    (backend : BackendManifest)
    (validated : BackendManifest.modelValidate (library.at now) value = some backend) :
    backend.Valid library.toModelLibrary := by
  obtain ⟨fields, read, later⟩ := bind_some validated
  obtain ⟨_, backendId, later⟩ := bind_some later
  obtain ⟨_, -, later⟩ := bind_some later
  obtain ⟨_, capacityNodeId, later⟩ := bind_some later
  obtain ⟨_, displayName, later⟩ := bind_some later
  obtain ⟨_, version, later⟩ := bind_some later
  obtain ⟨_, supportedTaskTypes, later⟩ := bind_some later
  obtain ⟨_, -, later⟩ := bind_some later
  obtain ⟨_, executionLocation, later⟩ := bind_some later
  obtain ⟨_, manifestHash, later⟩ := bind_some later
  obtain ⟨_, health, later⟩ := bind_some later
  obtain ⟨_, costModel, later⟩ := bind_some later
  obtain ⟨_, policyConstraints, later⟩ := bind_some later
  cases later
  rw [document_members _ value fields read] at written
  exact {
    backendId := required_holds Named nonEmptyStr_named backendId
    capacityNodeId := required_holds Named nonEmptyStr_named capacityNodeId
    displayName := required_holds Named nonEmptyStr_named displayName
    version := required_holds Named nonEmptyStr_named version
    supportedTaskTypes := required_holds (fun texts => ∀ text ∈ texts, Named text)
      (listOf_holds Named nonEmptyStr_named) supportedTaskTypes
    executionLocation := required_holds Named nonEmptyStr_named executionLocation
    manifestHash := required_holds Named nonEmptyStr_named manifestHash
    health := defaulted_holds (fun health => ∀ present, health = some present →
      present.Valid library.toModelLibrary) (by simp) (optional_holds _
        (BackendHealth.valid_of_validated library now dated)) health
    costModel := defaulted_holds CostModel.Valid CostModel.valid_default
      CostModel.valid_of_validated costModel
    policyConstraints := mapping_settled library.toModelLibrary fields written _ _
      policyConstraints }

/-- A document that validates gives a validated worker manifest. -/
theorem CapacityWorkerManifest.valid_of_validated (library : CapacityLibrary) (now : String)
    (dated : library.Dated now) (value : Json) (worker : CapacityWorkerManifest)
    (validated : CapacityWorkerManifest.modelValidate (library.at now) value = some worker) :
    worker.Valid library.toModelLibrary := by
  obtain ⟨_, -, later⟩ := bind_some validated
  obtain ⟨_, workerId, later⟩ := bind_some later
  obtain ⟨_, identity, later⟩ := bind_some later
  obtain ⟨_, capabilities, later⟩ := bind_some later
  obtain ⟨_, allowedTaskTypes, later⟩ := bind_some later
  obtain ⟨_, allowedDataLabels, later⟩ := bind_some later
  obtain ⟨_, -, later⟩ := bind_some later
  obtain ⟨_, -, later⟩ := bind_some later
  obtain ⟨_, -, later⟩ := bind_some later
  obtain ⟨_, backendIds, later⟩ := bind_some later
  obtain ⟨_, -, later⟩ := bind_some later
  obtain ⟨_, -, later⟩ := bind_some later
  obtain ⟨_, manifestHash, later⟩ := bind_some later
  obtain ⟨_, createdAt, later⟩ := bind_some later
  obtain ⟨_, updatedAt, later⟩ := bind_some later
  cases later
  have texts {fields : JsonObject} {name : String} {texts : List String}
      (here : defaulted [] (listOf nonEmptyStr) fields name = some texts) :
      ∀ text ∈ texts, Named text :=
    defaulted_holds (fun texts => ∀ text ∈ texts, Named text) (by simp)
      (listOf_holds Named nonEmptyStr_named) here
  exact {
    workerId := required_holds Named nonEmptyStr_named workerId
    identity := required_holds Named nonEmptyStr_named identity
    capabilities := texts capabilities
    allowedTaskTypes := texts allowedTaskTypes
    allowedDataLabels := texts allowedDataLabels
    backendIds := texts backendIds
    manifestHash := defaulted_holds (fun hash => ∀ text, hash = some text → Trimmed text) (by simp)
      (optional_holds Trimmed str_trimmed) manifestHash
    createdAt := library.timestamp_dated createdAt dated
    updatedAt := library.timestamp_dated updatedAt dated }

/-! ## Moments -/

/-- A worker's manifest without its timestamps. -/
def CapacityWorkerManifest.undated (worker : CapacityWorkerManifest) : CapacityWorkerManifest :=
  { worker with createdAt := "", updatedAt := "" }

/-- The health of a backend without its timestamp. -/
def BackendHealth.undated (health : BackendHealth) : BackendHealth := { health with checkedAt := "" }

/-- A backend's manifest without the timestamp of its health. -/
def BackendManifest.undated (backend : BackendManifest) : BackendManifest :=
  { backend with health := backend.health.map BackendHealth.undated }

/-- Two computations whose first steps look alike look alike if what follows does. -/
theorem bind_viewed {α β γ δ : Type} {first second : Option α} {left right : α → Option β}
    (seen : α → γ) (view : β → δ) (same : first.map seen = second.map seen)
    (agree : ∀ one other, seen one = seen other →
      (left one).map view = (right other).map view) :
    (first >>= left).map view = (second >>= right).map view := by
  cases first with
  | none =>
    cases second with
    | none => rfl
    | some other => cases same
  | some one =>
    cases second with
    | none => cases same
    | some other => exact agree one other (Option.some.inj same)

/-- Two computations with one first step look alike if what follows does. -/
theorem bind_alike {α β δ : Type} (first : Option α) {left right : α → Option β} (view : β → δ)
    (agree : ∀ value, (left value).map view = (right value).map view) :
    (first >>= left).map view = (first >>= right).map view := by
  cases first with
  | none => rfl
  | some value => exact agree value

section Moments

variable (library : ModelLibrary) (earlier later : String)

/-- Whether a timestamp reads does not depend on the moment. -/
theorem timestamp_alike (fields : JsonObject) (name : String) :
    (defaulted (library.at earlier).now (datetime (library.at earlier)) fields name).map
        (fun _ => ()) =
      (defaulted (library.at later).now (datetime (library.at later)) fields name).map
        (fun _ => ()) := by
  unfold defaulted
  cases member fields name <;> rfl

/-- A worker's manifest validates alike at any moment. -/
theorem CapacityWorkerManifest.modelValidate_alike (value : Json) :
    (CapacityWorkerManifest.modelValidate (library.at earlier) value).map undated =
      (CapacityWorkerManifest.modelValidate (library.at later) value).map undated := by
  unfold modelValidate
  refine bind_alike _ _ (fun fields => ?_)
  iterate 12 refine bind_alike _ _ (fun _ => ?_)
  refine bind_viewed _ _ (timestamp_alike library earlier later fields "created_at") ?_
  rintro _ _ -
  refine bind_viewed _ _ (timestamp_alike library earlier later fields "updated_at") ?_
  rintro _ _ -
  rfl

/-- The health of a backend validates alike at any moment. -/
theorem BackendHealth.modelValidate_alike (value : Json) :
    (BackendHealth.modelValidate (library.at earlier) value).map undated =
      (BackendHealth.modelValidate (library.at later) value).map undated := by
  unfold modelValidate
  refine bind_alike _ _ (fun fields => ?_)
  refine bind_alike _ _ (fun _ => ?_)
  refine bind_alike _ _ (fun _ => ?_)
  refine bind_viewed _ _ (timestamp_alike library earlier later fields "checked_at") ?_
  rintro _ _ -
  refine bind_alike _ _ (fun _ => ?_)
  refine bind_alike _ _ (fun _ => ?_)
  rfl

/-- An optional value reads alike if the value does. -/
theorem optional_alike {α γ : Type} (left right : Json → Option α) (view : α → γ)
    (same : ∀ value, (left value).map view = (right value).map view) (value : Json) :
    (Validation.optional left value).map (Option.map view) =
      (Validation.optional right value).map (Option.map view) := by
  cases value with
  | null => rfl
  | _ =>
    have moved : Option.map view ∘ some = some ∘ view := rfl
    simp only [Validation.optional, Option.map_map, moved]
    rw [← Option.map_map, same, Option.map_map]

/-- A backend's manifest validates alike at any moment. -/
theorem BackendManifest.modelValidate_alike (value : Json) :
    (BackendManifest.modelValidate (library.at earlier) value).map undated =
      (BackendManifest.modelValidate (library.at later) value).map undated := by
  unfold modelValidate
  refine bind_alike _ _ (fun fields => ?_)
  iterate 9 refine bind_alike _ _ (fun _ => ?_)
  refine bind_viewed (Option.map BackendHealth.undated) _ ?_ ?_
  · unfold defaulted
    cases member fields "health" with
    | none => rfl
    | some health => exact optional_alike _ _ _ (BackendHealth.modelValidate_alike library _ _) health
  · intro one other same
    refine bind_alike _ _ (fun _ => ?_)
    refine bind_alike _ _ (fun _ => ?_)
    simp only [Option.pure_def, Option.map_some, undated, same]

/-- What a worker's manifest reads of the members whose defaults depend on the moment or decide
which hash counts. -/
theorem CapacityWorkerManifest.members_of_validated (now : String) (value : Json)
    (worker : CapacityWorkerManifest)
    (validated : CapacityWorkerManifest.modelValidate (library.at now) value = some worker) :
    defaulted none (Validation.optional str) (membersOf value) "manifest_hash" =
        some worker.manifestHash ∧
      defaulted now (datetime library) (membersOf value) "created_at" = some worker.createdAt ∧
      defaulted now (datetime library) (membersOf value) "updated_at" = some worker.updatedAt := by
  obtain ⟨fields, read, later⟩ := bind_some validated
  iterate 11 obtain ⟨_, -, later⟩ := bind_some later
  obtain ⟨_, manifestHash, later⟩ := bind_some later
  obtain ⟨_, createdAt, later⟩ := bind_some later
  obtain ⟨_, updatedAt, later⟩ := bind_some later
  cases later
  rw [document_members _ value fields read]
  exact ⟨manifestHash, createdAt, updatedAt⟩

/-- A document of a worker's manifest that states when the manifest was made and changed. -/
def statesTimestamps (value : Json) : Bool :=
  (member (membersOf value) "created_at").isSome && (member (membersOf value) "updated_at").isSome

/-- A document that states its timestamps validates as one manifest at every moment. -/
theorem CapacityWorkerManifest.same_of_stated (value : Json) (stated : statesTimestamps value = true)
    (one other : CapacityWorkerManifest)
    (validated : CapacityWorkerManifest.modelValidate (library.at earlier) value = some one)
    (again : CapacityWorkerManifest.modelValidate (library.at later) value = some other) :
    one = other := by
  have alike := CapacityWorkerManifest.modelValidate_alike library earlier later value
  rw [validated, again, Option.map_some, Option.map_some, Option.some.injEq] at alike
  obtain ⟨-, created, updated⟩ := members_of_validated library earlier value one validated
  obtain ⟨-, created_again, updated_again⟩ := members_of_validated library later value other again
  rw [statesTimestamps, Bool.and_eq_true, Option.isSome_iff_exists, Option.isSome_iff_exists]
    at stated
  obtain ⟨⟨_, states_created⟩, ⟨_, states_updated⟩⟩ := stated
  rw [defaulted, states_created] at created created_again
  rw [defaulted, states_updated] at updated updated_again
  have same_created := Option.some.inj (created.symm.trans created_again)
  have same_updated := Option.some.inj (updated.symm.trans updated_again)
  cases one
  cases other
  simp_all [undated]

/-- A document that leaves a timestamp out validates as another manifest at another moment. -/
theorem CapacityWorkerManifest.differ_of_unstated (value : Json)
    (unstated : statesTimestamps value = false) (one other : CapacityWorkerManifest)
    (validated : CapacityWorkerManifest.modelValidate (library.at earlier) value = some one)
    (again : CapacityWorkerManifest.modelValidate (library.at later) value = some other)
    (same : one = other) : earlier = later := by
  subst same
  obtain ⟨-, created, updated⟩ := members_of_validated library earlier value one validated
  obtain ⟨-, created_again, updated_again⟩ := members_of_validated library later value one again
  rw [statesTimestamps, Bool.and_eq_false_iff, Option.isSome_eq_false_iff,
    Option.isSome_eq_false_iff, Option.isNone_iff_eq_none, Option.isNone_iff_eq_none] at unstated
  rcases unstated with no_created | no_updated
  · rw [defaulted, no_created] at created created_again
    exact Option.some.inj (created.trans created_again.symm)
  · rw [defaulted, no_updated] at updated updated_again
    exact Option.some.inj (updated.trans updated_again.symm)

/-- The hash that a document states, unless it is empty. -/
def statedHash (value : Json) : Option String :=
  required nonEmptyStr (membersOf value) "manifest_hash"

/-- A validated worker manifest has the hash that its document states, unless it is empty. -/
theorem CapacityWorkerManifest.hash_of_validated (now : String) (value : Json)
    (worker : CapacityWorkerManifest)
    (validated : CapacityWorkerManifest.modelValidate (library.at now) value = some worker) :
    worker.manifestHash.filter (fun explicit => explicit ≠ "") = statedHash value := by
  obtain ⟨here, -, -⟩ := members_of_validated library now value worker validated
  unfold defaulted at here
  rw [statedHash, required]
  split at here
  · rename_i absent
    rw [absent, ← Option.some.inj here]
    rfl
  · rename_i stated found
    rw [found, Option.bind_some, nonEmptyStr]
    cases stated with
    | null =>
      rw [← Option.some.inj here]
      rfl
    | str text =>
      rw [← Option.some.inj here]
      rfl
    | _ => cases here

end Moments

end TokenBank
