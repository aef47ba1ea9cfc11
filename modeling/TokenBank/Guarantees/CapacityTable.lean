import TokenBank.Capacity.Rebuild
import TokenBank.Guarantees.Hashes

/-!
# The capacity table and its manifests

After a rebuild the table lists the nodes that the rebuild returned, each as its manifest has
it, exactly if no two manifests give their nodes one id: a worker's is made of the id of the
worker, a backend's is free text. A second rebuild reads another time. That shows in the
timestamps of the nodes, and in the hash of a worker's manifest that is given as a document
without a hash of its own and without its timestamps.
-/

namespace TokenBank

open Canonical Validation Capacity

namespace CapacityTable

/-- A node without its timestamps. -/
def undated (node : CapacityNode) : CapacityNode :=
  { node with
    health := { node.health with checkedAt := "" }
    createdAt := ""
    updatedAt := "" }

/-- A node has what the manifest of its worker says. -/
structure OfWorker (digest : Digest) (worker : CapacityWorkerManifest) (node : CapacityNode) :
    Prop where
  capacityNodeId : node.capacityNodeId = capacityNodeId worker.workerId
  workerId : node.workerId = some worker.workerId
  backendIds : node.backendIds = worker.backendIds
  backendClasses : node.backendClasses = worker.backendClasses
  manifestHash : node.manifestHash = manifestHash digest worker

/-- A node has what the manifest of its backend says. -/
structure OfBackend (backend : BackendManifest) (node : CapacityNode) : Prop where
  capacityNodeId : node.capacityNodeId = backend.capacityNodeId
  workerId : node.workerId = none
  backendIds : node.backendIds = [backend.backendId]
  backendClasses : node.backendClasses = [backend.backendClass]
  manifestHash : node.manifestHash = backend.manifestHash

section Rebuilds

variable {library : CapacityLibrary} (digest : Digest)

/-- Nodes belong to manifests one by one, workers first. -/
def Aligned (workers : List (ValidWorker library)) (backends : List (ValidBackend library))
    (nodes : List (ValidNode library)) : Prop :=
  ∃ ofWorkers ofBackends, ofWorkers ++ ofBackends = nodes ∧
    List.Forall₂ (fun worker node => OfWorker digest worker.1 node.1) workers ofWorkers ∧
    List.Forall₂ (fun backend node => OfBackend backend.1 node.1) backends ofBackends

variable (first second : RebuildClock library)
  (workerManifests : List (GivenManifest (ValidWorker library)))
  (backendManifests : List (GivenManifest (ValidBackend library)))

/-- The workers that manifests are given of. -/
def givenWorkers (now : Reading library) : List (ValidWorker library) :=
  workerManifests.filterMap (validatedWorker library now)

/-- The backends that manifests are given of. -/
def givenBackends (now : Reading library) : List (ValidBackend library) :=
  backendManifests.filterMap (validatedBackend library now)

/-- The table is the projection: it lists the returned nodes, each of which belongs to its
manifest, and a second rebuild leaves all but the timestamps as they are. -/
structure ExactProjection (nodes : List (ValidNode library))
    (after : Store.Table String StoredCapacityNode) : Prop where
  listed : ∃ listed, listCapacityNodes library after = .ok listed ∧
    listed.Perm (nodes.map (fun node => node.1.reordered))
  aligned : Aligned digest (givenWorkers workerManifests first.validatedAt)
    (givenBackends backendManifests first.validatedAt) nodes
  unchanged : ∃ again later listed relisted,
    rebuildCapacityNodes digest second workerManifests backendManifests after =
      .ok (again, later) ∧
    listCapacityNodes library after = .ok listed ∧
    listCapacityNodes library later = .ok relisted ∧
    (relisted.map undated).Perm (listed.map undated)

/-- The hash of a manifest does not depend on the time it is read at. -/
def hashSettled {α : Type} : GivenManifest α → Bool
  | .model _ => true
  | .document value _ => (statedHash value).isSome || statesTimestamps value

/-- Every manifest gives its node an id of its own, and either the clock has not moved or no
hash depends on it. -/
structure SettledManifests : Prop where
  distinct : (nodeIds ((givenWorkers workerManifests first.validatedAt).map (·.1))
    ((givenBackends backendManifests first.validatedAt).map (·.1))).Nodup
  hashes : first.validatedAt = second.validatedAt ∨
    ∀ given ∈ workerManifests, hashSettled given = true

/-- The hash function tells the two readings of each worker's manifest apart. -/
def HashesSeparate : Prop :=
  ∀ given ∈ workerManifests, ∀ one other,
    validatedWorker library first.validatedAt given = some one →
    validatedWorker library second.validatedAt given = some other →
    Hashes.Separates digest.sha256 (canonicalJsonDumps one.1.modelDump)
      (canonicalJsonDumps other.1.modelDump)

/-! ## One rebuild -/

/-- The values of a list that is read item by item are all there are. -/
theorem filterMap_of_forall₂ {α β : Type} (read : α → Option β) (items : List α)
    (values : List β) (each : List.Forall₂ (fun item value => read item = some value) items values) :
    items.filterMap read = values := by
  induction each with
  | nil => rfl
  | cons here _ inductionHypothesis => rw [List.filterMap_cons_some here, inductionHypothesis]

/-- Nodes are projected in line with their manifests. -/
theorem projected_aligned (stamp : Nat → NodeStamp library) (workers : List (ValidWorker library))
    (backends : List (ValidBackend library)) (nodes : List (ValidNode library))
    (projected : projectedNodes digest stamp workers backends = .ok nodes) :
    Aligned digest workers backends nodes := by
  obtain ⟨backendNodes, each, rfl⟩ := (projectedNodes_ok_iff _ _ _ _ _).mp projected
  refine ⟨_, backendNodes, rfl, ?_, ?_⟩
  · have each_worker : List.Forall₂ (fun (worker : ValidWorker library) (node : ValidNode library) =>
        OfWorker digest worker.1 node.1) (workers.zipIdx.map Prod.fst)
          (workerNodes digest stamp workers) := by
      rw [workerNodes, List.forall₂_map_left_iff, List.forall₂_map_right_iff, List.forall₂_same]
      intro entry _
      exact ⟨rfl, rfl, rfl, rfl, rfl⟩
    rwa [List.zipIdx_map_fst] at each_worker
  · have places : (backends.zipIdx workers.length).map Prod.fst = backends :=
      List.zipIdx_map_fst _ backends
    rw [← places, List.forall₂_map_left_iff]
    refine each.imp (fun entry node here => ?_)
    obtain ⟨location, -, -, same⟩ := (projectBackendManifest_ok_iff _ _ _).mp here
    rw [← same]
    exact ⟨rfl, rfl, rfl, rfl, rfl⟩

/-! ## Another reading of the clock -/

variable {digest first second workerManifests backendManifests}

/-- A document gives a worker's manifest alike at every time. -/
theorem readWorker_alike (earlier later : Reading library) (document : Json)
    (worker : ValidWorker library) (read : readWorker library earlier document = some worker) :
    ∃ other, readWorker library later document = some other ∧
      other.1.undated = worker.1.undated := by
  rw [readWorker_iff] at read
  have alike := CapacityWorkerManifest.modelValidate_alike library.toModelLibrary earlier later
    document
  rw [read, Option.map_some, eq_comm, Option.map_eq_some_iff] at alike
  obtain ⟨other, again, same⟩ := alike
  exact ⟨⟨other, other.valid_of_validated library later later.2 document again⟩,
    (readWorker_iff library later document _).mpr again, same⟩

/-- A worker's manifest validates alike at every time. -/
theorem validatedWorker_alike (earlier later : Reading library)
    (given : GivenManifest (ValidWorker library)) (worker : ValidWorker library)
    (validated : validatedWorker library earlier given = some worker) :
    ∃ again, validatedWorker library later given = some again ∧
      again.1.undated = worker.1.undated := by
  cases given with
  | model manifest =>
    cases validated
    exact ⟨worker, rfl, rfl⟩
  | document value written => exact readWorker_alike earlier later value worker validated

/-- A backend's manifest validates alike at every time. -/
theorem validatedBackend_alike (earlier later : Reading library)
    (given : GivenManifest (ValidBackend library)) (backend : ValidBackend library)
    (validated : validatedBackend library earlier given = some backend) :
    ∃ again, validatedBackend library later given = some again ∧
      again.1.undated = backend.1.undated := by
  cases given with
  | model manifest =>
    cases validated
    exact ⟨backend, rfl, rfl⟩
  | document value written =>
    rw [validatedBackend, readBackend_iff] at validated
    have alike := BackendManifest.modelValidate_alike library.toModelLibrary earlier later value
    rw [validated, Option.map_some, eq_comm, Option.map_eq_some_iff] at alike
    obtain ⟨other, again, same⟩ := alike
    exact ⟨⟨other, other.valid_of_validated library later later.2 value written again⟩,
      (readBackend_iff library later value written _).mpr again, same⟩

/-- What every item of a list has a value of it has again. -/
theorem forall₂_again {α β : Type} (related again : α → β → Prop) (same : β → β → Prop)
    (items : List α) (values : List β)
    (alike : ∀ item ∈ items, ∀ value, related item value →
      ∃ other, again item other ∧ same other value)
    (each : List.Forall₂ related items values) :
    ∃ others, List.Forall₂ again items others ∧ List.Forall₂ same others values := by
  induction each with
  | nil => exact ⟨[], .nil, .nil⟩
  | cons here _ inductionHypothesis =>
    obtain ⟨now_same, later_same⟩ := List.forall_mem_cons.mp alike
    obtain ⟨other, read_again, same_here⟩ := now_same _ here
    obtain ⟨others, rest_again, same_rest⟩ := inductionHypothesis later_same
    exact ⟨other :: others, .cons read_again rest_again, .cons same_here same_rest⟩

/-- Lists whose values look alike one by one look alike. -/
theorem map_eq_of_forall₂ {α β : Type} (view : α → β) (left right : List α)
    (same : List.Forall₂ (fun one other => view one = view other) left right) :
    left.map view = right.map view := by
  induction same with
  | nil => rfl
  | cons here _ inductionHypothesis => rw [List.map_cons, List.map_cons, here, inductionHypothesis]

/-- Whether a worker fits does not depend on the timestamps of the backends. -/
theorem fits_undated (backends : List BackendManifest) (worker : WorkerManifest) :
    Fits (backends.map BackendManifest.undated) worker ↔ Fits backends worker := by
  have found (backendId : String) : (backendsById (backends.map BackendManifest.undated)).find?
      backendId = ((backendsById backends).find? backendId).map BackendManifest.undated := by
    rw [backendsById_find?, backendsById_find?, ← List.map_reverse, List.find?_map]
    rfl
  refine or_congr List.map_eq_nil_iff (forall₂_congr (fun backendId _ => ?_))
  simp only [found, Option.map_eq_some_iff]
  constructor
  · rintro ⟨_, ⟨backend, here, rfl⟩, pairs⟩
    exact ⟨backend, here, pairs⟩
  · rintro ⟨backend, here, pairs⟩
    exact ⟨_, ⟨backend, here, rfl⟩, pairs⟩

/-- Two lists of backends that are alike but for their timestamps pass the same checks and have
nodes alike. -/
theorem backends_again (backends others : List (ValidBackend library))
    (same : others.map (fun backend => backend.1.undated) =
      backends.map (fun backend => backend.1.undated)) :
    ((∀ backend ∈ backends, Located backend.1) → ∀ backend ∈ others, Located backend.1) ∧
      ((∀ backend ∈ backends, Projectable backend.1) →
        ∀ backend ∈ others, Projectable backend.1) ∧
      ∀ worker, Fits (backends.map (·.1)) worker → Fits (others.map (·.1)) worker := by
  have member (backend : ValidBackend library) (inOthers : backend ∈ others) :
      ∃ known ∈ backends, known.1.undated = backend.1.undated := by
    have there : backend.1.undated ∈ others.map (fun backend => backend.1.undated) :=
      List.mem_map.mpr ⟨backend, inOthers, rfl⟩
    rw [same] at there
    exact List.mem_map.mp there
  refine ⟨fun located backend inOthers => ?_, fun projectable backend inOthers => ?_,
    fun worker fits => ?_⟩
  · obtain ⟨known, inBackends, alike⟩ := member backend inOthers
    have here : Located known.1.undated := located known inBackends
    rw [alike] at here
    exact here
  · obtain ⟨known, inBackends, alike⟩ := member backend inOthers
    have here : Projectable known.1.undated := projectable known inBackends
    rw [alike] at here
    exact here
  · have lists : (others.map (·.1)).map BackendManifest.undated =
        (backends.map (·.1)).map BackendManifest.undated := by
      rw [List.map_map, List.map_map]
      exact same
    rwa [← fits_undated, lists, fits_undated]

variable (digest first second) in
/-- A rebuild that returned returns again, whatever the clock reads and the table holds. -/
theorem rebuild_again (workers : List (ValidWorker library)) (backends : List (ValidBackend library))
    (validated_workers : List.Forall₂ (fun given worker =>
      validatedWorker library first.validatedAt given = some worker) workerManifests workers)
    (validated_backends : List.Forall₂ (fun given backend =>
      validatedBackend library first.validatedAt given = some backend) backendManifests backends)
    (located : ∀ backend ∈ backends, Located backend.1)
    (fits : ∀ worker ∈ workers, Fits (backends.map (·.1)) worker.1.routed)
    (projectable : ∀ backend ∈ backends, Projectable backend.1)
    (table : Store.Table String StoredCapacityNode) :
    ∃ workers' backends' again,
      List.Forall₂ (fun given worker => validatedWorker library second.validatedAt given =
        some worker) workerManifests workers' ∧
      workers'.map (fun worker => worker.1.undated) = workers.map (fun worker => worker.1.undated) ∧
      backends'.map (fun backend => backend.1.undated) =
        backends.map (fun backend => backend.1.undated) ∧
      projectedNodes digest second.stamp workers' backends' = .ok again ∧
      rebuildCapacityNodes digest second workerManifests backendManifests table =
        .ok (again, replaceNodes again table) := by
  obtain ⟨workers', again_workers, same_workers⟩ := forall₂_again
    (fun given worker => validatedWorker library first.validatedAt given = some worker)
    (fun given worker => validatedWorker library second.validatedAt given = some worker)
    (fun other worker => other.1.undated = worker.1.undated) workerManifests workers
    (fun given _ worker validated => validatedWorker_alike _ _ given worker validated)
    validated_workers
  obtain ⟨backends', again_backends, same_backends⟩ := forall₂_again
    (fun given backend => validatedBackend library first.validatedAt given = some backend)
    (fun given backend => validatedBackend library second.validatedAt given = some backend)
    (fun other backend => other.1.undated = backend.1.undated) backendManifests backends
    (fun given _ backend validated => validatedBackend_alike _ _ given backend validated)
    validated_backends
  have alike_workers := map_eq_of_forall₂ (fun worker : ValidWorker library => worker.1.undated)
    workers' workers same_workers
  have alike_backends := map_eq_of_forall₂ (fun backend : ValidBackend library => backend.1.undated)
    backends' backends same_backends
  obtain ⟨located_again, projectable_again, fits_again⟩ :=
    backends_again backends backends' alike_backends
  have fitting : ∀ worker ∈ workers', Fits (backends'.map (·.1)) worker.1.routed := by
    intro worker inWorkers
    have there : worker.1.undated ∈ workers'.map (fun worker => worker.1.undated) :=
      List.mem_map.mpr ⟨worker, inWorkers, rfl⟩
    rw [alike_workers] at there
    obtain ⟨known, inKnown, alike⟩ := List.mem_map.mp there
    have here : Fits (backends'.map (·.1)) known.1.undated.routed :=
      fits_again known.1.routed (fits known inKnown)
    rw [alike] at here
    exact here
  obtain ⟨again, projected⟩ := (projectedNodes_isOk_iff digest second.stamp workers' backends').mpr
    (projectable_again projectable)
  exact ⟨workers', backends', again, again_workers, alike_workers, alike_backends, projected,
    (rebuildCapacityNodes_ok_iff digest second _ _ table _ again).mpr ⟨workers', backends',
      again_workers, again_backends, located_again located, fitting, projected, rfl⟩⟩

/-! ## Nodes of two rebuilds -/

/-- But for its timestamps a worker's node is made of the manifest without timestamps and of
its hash. -/
theorem undated_workerNode (stamp other : NodeStamp library) (worker : CapacityWorkerManifest) :
    undated (workerNode library digest stamp worker) =
      { undated (workerNode library digest other worker.undated) with
        manifestHash := manifestHash digest worker } := rfl

/-- But for its timestamps a backend's node is made of the manifest without timestamps. -/
theorem undated_backendNode (stamp other : NodeStamp library) (backend : BackendManifest)
    (location : ExecutionLocation) : undated (backendNode library stamp backend location) =
      undated (backendNode library other backend.undated location) := by
  have status : (backend.undated.health.map BackendHealth.status) =
      backend.health.map BackendHealth.status := by
    rw [BackendManifest.undated, Option.map_map]
    rfl
  rw [undated, undated, backendNode, backendNode, status]
  rfl

/-- Workers alike but for timestamps, with the same hashes, have nodes alike. -/
theorem workerNodes_alike (stamp other : Nat → NodeStamp library)
    (workers others : List (ValidWorker library))
    (alike : others.map (fun worker => worker.1.undated) =
      workers.map (fun worker => worker.1.undated))
    (hashes : others.map (fun worker => manifestHash digest worker.1) =
      workers.map (fun worker => manifestHash digest worker.1)) :
    (workerNodes digest other others).map (fun node => undated node.1) =
      (workerNodes digest stamp workers).map (fun node => undated node.1) := by
  unfold workerNodes
  generalize 0 = start
  induction workers generalizing others start with
  | nil =>
    rw [List.map_eq_nil_iff.mp alike]
    rfl
  | cons worker rest inductionHypothesis =>
    cases others with
    | nil => cases alike
    | cons first others =>
      rw [List.map_cons, List.map_cons, List.cons.injEq] at alike hashes
      have here : undated (workerNode library digest (other start) first.1) =
          undated (workerNode library digest (stamp start) worker.1) := by
        rw [undated_workerNode (other start) (stamp start), alike.1, hashes.1]
        rfl
      simp only [List.zipIdx_cons, List.map_cons]
      exact congrArg₂ List.cons here (inductionHypothesis others alike.2 hashes.2 (start + 1))

/-- Backends alike but for timestamps have nodes alike. -/
theorem backendNodes_alike (stamp other : Nat → NodeStamp library)
    (backends others : List (ValidBackend library))
    (alike : others.map (fun backend => backend.1.undated) =
      backends.map (fun backend => backend.1.undated)) (start begin : Nat)
    (nodes otherNodes : List (ValidNode library))
    (each : List.Forall₂ (fun (entry : ValidBackend library × Nat) node =>
      projectBackendManifest library (stamp entry.2) entry.1 = .ok node) (backends.zipIdx start) nodes)
    (again : List.Forall₂ (fun (entry : ValidBackend library × Nat) node =>
      projectBackendManifest library (other entry.2) entry.1 = .ok node) (others.zipIdx begin)
        otherNodes) :
    otherNodes.map (fun node => undated node.1) = nodes.map (fun node => undated node.1) := by
  induction backends generalizing others start begin nodes otherNodes with
  | nil =>
    rw [List.map_eq_nil_iff.mp alike] at again
    cases each
    cases again
    rfl
  | cons backend rest inductionHypothesis =>
    cases others with
    | nil => cases alike
    | cons first others =>
      rw [List.map_cons, List.map_cons, List.cons.injEq] at alike
      rw [List.zipIdx_cons] at each again
      cases each with
      | cons here later =>
        cases again with
        | cons here_again later_again =>
          obtain ⟨location, located, -, node⟩ := (projectBackendManifest_ok_iff _ _ _).mp here
          obtain ⟨location', located_again, -, node_again⟩ :=
            (projectBackendManifest_ok_iff _ _ _).mp here_again
          have same_location : first.1.executionLocation = backend.1.executionLocation := by
            change first.1.undated.executionLocation = backend.1.undated.executionLocation
            rw [alike.1]
          simp only [same_location, located, Option.some.injEq] at located_again
          subst located_again
          rw [List.map_cons, List.map_cons, inductionHypothesis others alike.2 _ _ _ _ later
            later_again, ← node, ← node_again, undated_backendNode (other begin) (stamp start),
            undated_backendNode (stamp start) (stamp start) backend.1, alike.1]

/-- Nodes projected from manifests alike but for timestamps, with the same hashes, are alike. -/
theorem projectedNodes_alike (stamp other : Nat → NodeStamp library)
    (workers workers' : List (ValidWorker library)) (backends backends' : List (ValidBackend library))
    (nodes again : List (ValidNode library))
    (alike_workers : workers'.map (fun worker => worker.1.undated) =
      workers.map (fun worker => worker.1.undated))
    (alike_backends : backends'.map (fun backend => backend.1.undated) =
      backends.map (fun backend => backend.1.undated))
    (hashes : workers'.map (fun worker => manifestHash digest worker.1) =
      workers.map (fun worker => manifestHash digest worker.1))
    (projected : projectedNodes digest stamp workers backends = .ok nodes)
    (projected_again : projectedNodes digest other workers' backends' = .ok again) :
    again.map (fun node => undated node.1) = nodes.map (fun node => undated node.1) := by
  obtain ⟨ofBackends, each, rfl⟩ := (projectedNodes_ok_iff _ _ _ _ _).mp projected
  obtain ⟨ofBackends', each_again, rfl⟩ := (projectedNodes_ok_iff _ _ _ _ _).mp projected_again
  rw [List.map_append, List.map_append, workerNodes_alike stamp other workers workers' alike_workers
    hashes, backendNodes_alike stamp other backends backends' alike_backends _ _ ofBackends
      ofBackends' each each_again]

/-- The hash of a settled manifest is the same at every time. -/
theorem hash_alike (earlier later : Reading library) (given : GivenManifest (ValidWorker library))
    (settled : earlier = later ∨ hashSettled given = true) (worker again : ValidWorker library)
    (validated : validatedWorker library earlier given = some worker)
    (validated_again : validatedWorker library later given = some again) :
    manifestHash digest again.1 = manifestHash digest worker.1 := by
  rcases settled with rfl | settled
  · rw [validated, Option.some.injEq] at validated_again
    rw [validated_again]
  · cases given with
    | model manifest =>
      cases validated
      cases validated_again
      rfl
    | document value written =>
      rw [validatedWorker, readWorker_iff] at validated validated_again
      rw [hashSettled, Bool.or_eq_true] at settled
      rcases settled with stated | stated
      · have hash := worker.1.hash_of_validated library.toModelLibrary earlier value validated
        have hash_again := again.1.hash_of_validated library.toModelLibrary later value
          validated_again
        obtain ⟨explicit, here⟩ := Option.isSome_iff_exists.mp stated
        rw [manifestHash, manifestHash, hash, hash_again, here, Option.getD_some, Option.getD_some]
      · have same := CapacityWorkerManifest.same_of_stated library.toModelLibrary earlier later value
          stated worker.1 again.1 validated validated_again
        rw [same]

/-- Equal hashes that are told apart come from one manifest, unless its document states one. -/
theorem hashSettled_of_same (earlier later : Reading library)
    (given : GivenManifest (ValidWorker library)) (worker again : ValidWorker library)
    (validated : validatedWorker library earlier given = some worker)
    (validated_again : validatedWorker library later given = some again)
    (separates : Hashes.Separates digest.sha256 (canonicalJsonDumps worker.1.modelDump)
      (canonicalJsonDumps again.1.modelDump))
    (same : manifestHash digest worker.1 = manifestHash digest again.1) :
    earlier = later ∨ hashSettled given = true := by
  cases given with
  | model manifest => exact .inr rfl
  | document value written =>
    rw [validatedWorker, readWorker_iff] at validated validated_again
    rw [hashSettled, Bool.or_eq_true]
    cases stated : statedHash value with
    | some hash => exact .inr (.inl rfl)
    | none =>
      cases dates : statesTimestamps value with
      | true => exact .inr (.inr rfl)
      | false =>
        rw [manifestHash, manifestHash,
          worker.1.hash_of_validated library.toModelLibrary earlier value validated,
          again.1.hash_of_validated library.toModelLibrary later value validated_again, stated]
          at same
        have texts := separates same
        have read := worker.1.reread library.toModelLibrary earlier worker.2
        rw [texts, again.1.reread library.toModelLibrary earlier again.2] at read
        exact .inl (Subtype.ext (CapacityWorkerManifest.differ_of_unstated library.toModelLibrary
          earlier later value dates worker.1 again.1 validated validated_again
          (Option.some.inj read).symm))

/-! ## Both rebuilds -/

/-- Every item of a list that is related to another one by one is related to an item of it. -/
theorem forall₂_mem {α β : Type} {related : α → β → Prop} {items : List α} {values : List β}
    (each : List.Forall₂ related items values) :
    ∀ item ∈ items, ∃ value ∈ values, related item value := by
  induction each with
  | nil => simp
  | cons here _ inductionHypothesis =>
    rw [List.forall_mem_cons]
    refine ⟨⟨_, List.mem_cons_self, here⟩, fun item inRest => ?_⟩
    obtain ⟨value, inValues, related⟩ := inductionHypothesis item inRest
    exact ⟨value, List.mem_cons_of_mem _ inValues, related⟩

/-- Ids of nodes do not depend on timestamps. -/
theorem nodeIds_undated (workers : List (ValidWorker library))
    (backends : List (ValidBackend library)) :
    nodeIds (workers.map (·.1)) (backends.map (·.1)) =
      nodeIds (workers.map (fun worker => worker.1.undated))
        (backends.map (fun backend => backend.1.undated)) := by
  simp only [nodeIds, List.map_map]
  rfl

/-- Two readings of each item that look alike give lists that look alike. -/
theorem map_eq_of_read {α β γ : Type} (read again : α → Option β) (view : β → γ) (items : List α)
    (values others : List β)
    (each : List.Forall₂ (fun item value => read item = some value) items values)
    (each_again : List.Forall₂ (fun item value => again item = some value) items others)
    (same : ∀ item ∈ items, ∀ value other, read item = some value → again item = some other →
      view other = view value) : others.map view = values.map view := by
  induction each generalizing others with
  | nil =>
    cases each_again
    rfl
  | cons here _ inductionHypothesis =>
    cases each_again with
    | cons here_again later =>
      rw [List.forall_mem_cons] at same
      rw [List.map_cons, List.map_cons, same.1 _ _ here here_again,
        inductionHypothesis _ later same.2]

/-- Every worker has a node. -/
theorem node_of_worker (workers : List (ValidWorker library)) (backends : List (ValidBackend library))
    (nodes : List (ValidNode library)) (aligned : Aligned digest workers backends nodes)
    (worker : ValidWorker library) (inWorkers : worker ∈ workers) :
    ∃ node ∈ nodes, OfWorker digest worker.1 node.1 := by
  obtain ⟨ofWorkers, ofBackends, rfl, each, -⟩ := aligned
  obtain ⟨node, inNodes, here⟩ := forall₂_mem each worker inWorkers
  exact ⟨node, List.mem_append_left _ inNodes, here⟩

/-- If a second rebuild leaves the listed nodes as they are but for their timestamps, it reads
the manifests' hashes as the first did. -/
theorem hashes_of_unchanged (workers workers' : List (ValidWorker library))
    (backends backends' : List (ValidBackend library)) (nodes again : List (ValidNode library))
    (aligned : Aligned digest workers backends nodes)
    (aligned_again : Aligned digest workers' backends' again)
    (distinct : (nodes.map (fun node => node.1.capacityNodeId)).Nodup)
    (unchanged : (again.map (fun node => undated node.1.reordered)).Perm
      (nodes.map (fun node => undated node.1.reordered)))
    (worker worker' : ValidWorker library) (inWorkers : worker ∈ workers)
    (inWorkers' : worker' ∈ workers') (alike : worker'.1.undated = worker.1.undated) :
    manifestHash digest worker.1 = manifestHash digest worker'.1 := by
  obtain ⟨node, inNodes, ofWorker⟩ := node_of_worker workers backends nodes aligned worker inWorkers
  obtain ⟨node', inAgain, ofWorker'⟩ :=
    node_of_worker workers' backends' again aligned_again worker' inWorkers'
  have there := unchanged.mem_iff.mp (List.mem_map.mpr ⟨node', inAgain, rfl⟩)
  obtain ⟨known, inKnown, same⟩ := List.mem_map.mp there
  have same_id : known.1.capacityNodeId = node'.1.capacityNodeId :=
    (congrArg CapacityNode.capacityNodeId same :)
  have same_hash : known.1.manifestHash = node'.1.manifestHash :=
    (congrArg CapacityNode.manifestHash same :)
  have same_worker : worker'.1.workerId = worker.1.workerId :=
    (congrArg CapacityWorkerManifest.workerId alike :)
  have own : known = node := by
    apply List.inj_on_of_nodup_map distinct inKnown inNodes
    rw [same_id, ofWorker'.capacityNodeId, ofWorker.capacityNodeId, same_worker]
  rw [← ofWorker.manifestHash, ← ofWorker'.manifestHash, ← own, same_hash]

variable (digest first second workerManifests backendManifests)

/-- What a rebuild that returned read, and what a second one then does. -/
theorem rebuild_parts (table after : Store.Table String StoredCapacityNode)
    (nodes : List (ValidNode library))
    (returned : rebuildCapacityNodes digest first workerManifests backendManifests table =
      .ok (nodes, after)) :
    ∃ workers backends workers' backends' again,
      List.Forall₂ (fun given worker => validatedWorker library first.validatedAt given =
        some worker) workerManifests workers ∧
      givenBackends backendManifests first.validatedAt = backends ∧
      List.Forall₂ (fun given worker => validatedWorker library second.validatedAt given =
        some worker) workerManifests workers' ∧
      workers'.map (fun worker => worker.1.undated) = workers.map (fun worker => worker.1.undated) ∧
      backends'.map (fun backend => backend.1.undated) =
        backends.map (fun backend => backend.1.undated) ∧
      projectedNodes digest first.stamp workers backends = .ok nodes ∧
      projectedNodes digest second.stamp workers' backends' = .ok again ∧
      replaceNodes nodes table = after ∧
      rebuildCapacityNodes digest second workerManifests backendManifests after =
        .ok (again, replaceNodes again after) := by
  obtain ⟨workers, backends, validated_workers, validated_backends, located, fits, projected,
    replaced⟩ := (rebuildCapacityNodes_ok_iff _ _ _ _ _ _ _).mp returned
  have projectable := (projectedNodes_isOk_iff digest first.stamp workers backends).mp
    ⟨nodes, projected⟩
  obtain ⟨workers', backends', again, again_workers, alike_workers, alike_backends, projected_again,
    returned_again⟩ := rebuild_again digest first second workers
      backends validated_workers validated_backends located fits projectable after
  exact ⟨workers, backends, workers', backends', again, validated_workers,
    filterMap_of_forall₂ _ _ _ validated_backends, again_workers, alike_workers, alike_backends,
    projected, projected_again, replaced, returned_again⟩

end Rebuilds

end CapacityTable

open CapacityTable

/-- After a rebuild the table is the projection of the manifests, now and after another rebuild,
exactly if their nodes have ids of their own and no hash depends on the clock. -/
theorem capacityTable_exact_iff {library : CapacityLibrary} (digest : Digest)
    (first second : RebuildClock library)
    (workerManifests : List (GivenManifest (ValidWorker library)))
    (backendManifests : List (GivenManifest (ValidBackend library)))
    (separates : HashesSeparate digest first second workerManifests)
    (table after : Store.Table String StoredCapacityNode) (nodes : List (ValidNode library))
    (returned : rebuildCapacityNodes digest first workerManifests backendManifests table =
      .ok (nodes, after)) :
    ExactProjection digest first second workerManifests backendManifests nodes after ↔
      SettledManifests first second workerManifests backendManifests := by
  obtain ⟨workers, backends, workers', backends', again, validated, given_backends, validated_again,
    alike_workers, alike_backends, projected, projected_again, rfl, returned_again⟩ :=
      rebuild_parts digest first second workerManifests backendManifests table after nodes returned
  have given_workers : givenWorkers workerManifests first.validatedAt = workers :=
    filterMap_of_forall₂ _ _ _ validated
  have ids := projectedNodes_ids digest first.stamp workers backends nodes projected
  have ids_again := projectedNodes_ids digest second.stamp workers' backends' again projected_again
  rw [nodeIds_undated, alike_workers, alike_backends, ← nodeIds_undated] at ids_again
  have aligned := projected_aligned digest first.stamp workers backends nodes projected
  have aligned_again := projected_aligned digest second.stamp workers' backends' again
    projected_again
  constructor
  · rintro ⟨⟨listed, read, permuted⟩, -, again', later, listed', relisted, rebuilt, read', reread,
      unchanged⟩
    have distinct := distinct_of_listed nodes table listed read
      (by rw [permuted.length_eq, List.length_map])
    refine ⟨given_workers ▸ given_backends ▸ ids ▸ distinct, or_iff_not_imp_left.mpr ?_⟩
    intro moved given inGiven
    rw [returned_again, Except.ok.injEq, Prod.mk.injEq] at rebuilt
    obtain ⟨rfl, rfl⟩ := rebuilt
    obtain ⟨relisted', reread', permuted'⟩ := listed_of_distinct again
      (replaceNodes nodes table) (ids_again ▸ ids ▸ distinct)
    rw [reread, Except.ok.injEq] at reread'
    rw [read, Except.ok.injEq] at read'
    subst reread'
    subst read'
    have same_nodes := ((permuted'.map undated).symm.trans unchanged).trans (permuted.map undated)
    rw [List.map_map, List.map_map] at same_nodes
    obtain ⟨worker, inWorkers, here⟩ := forall₂_mem validated given inGiven
    obtain ⟨worker', inWorkers', here'⟩ := forall₂_mem validated_again given inGiven
    obtain ⟨other, again_here, alike⟩ := validatedWorker_alike _ second.validatedAt given worker here
    rw [here', Option.some.injEq] at again_here
    subst again_here
    have same_hash := hashes_of_unchanged workers workers' backends backends' nodes again aligned
      aligned_again distinct same_nodes worker worker' inWorkers inWorkers' alike
    exact (hashSettled_of_same _ _ given worker worker' here here'
      (separates given inGiven worker worker' here here') same_hash).resolve_left moved
  · rintro ⟨distinct, settled⟩
    rw [given_workers, given_backends] at distinct
    have same_hashes := map_eq_of_read (validatedWorker library first.validatedAt)
      (validatedWorker library second.validatedAt)
      (fun worker : ValidWorker library => manifestHash digest worker.1) workerManifests workers
      workers' validated validated_again (fun given inGiven worker worker' here here' =>
        hash_alike _ _ given (settled.imp_right (fun each => each given inGiven)) worker worker' here
          here')
    have same_nodes := projectedNodes_alike first.stamp second.stamp workers workers' backends
      backends' nodes again alike_workers alike_backends same_hashes projected projected_again
    have same_reordered := congrArg (List.map CapacityNode.reordered) same_nodes
    rw [List.map_map, List.map_map] at same_reordered
    obtain ⟨listed, read, permuted⟩ := listed_of_distinct nodes table (ids ▸ distinct)
    obtain ⟨relisted, reread, permuted'⟩ := listed_of_distinct again (replaceNodes nodes table)
      (ids_again ▸ distinct)
    refine ⟨⟨listed, read, permuted⟩, given_workers ▸ given_backends ▸ aligned, again, _, listed,
      relisted, returned_again, read, reread, ?_⟩
    have left := permuted'.map undated
    have right := permuted.map undated
    rw [List.map_map] at left right
    exact (left.trans (.of_eq same_reordered)).trans right.symm

namespace CapacityTable

/-! ## Two small registries -/

/-- A library that takes every text for a datetime. -/
def plainLibrary : CapacityLibrary where
  trimsKeys := true
  datetime := some
  now := "2026-01-01T00:00:00Z"
  rereads := fun _ _ _ => rfl

/-- A hash function that keeps the text. -/
def framed : Digest where
  sha256 := fun text => "sha256:" ++ text ++ "."
  named := by
    intro text
    have characters : ("sha256:" ++ text ++ ".").toList = "sha256:".toList ++ text.toList ++ ['.'] := by
      rw [String.toList_append, String.toList_append]
      rfl
    refine ⟨trimmed_of_ends _ ?_ ?_, ?_⟩
    · rw [characters]
      rfl
    · rw [characters, List.getLast?_append_of_ne_nil _ (by simp)]
      rfl
    · intro empty
      have nothing := congrArg String.toList empty
      rw [characters] at nothing
      simp at nothing

/-- The hash function tells all texts apart. -/
theorem framed_separates (left right : String) : Hashes.Separates framed.sha256 left right := by
  intro same
  have characters := congrArg String.toList same
  simp only [framed, String.toList_append, List.append_assoc, List.append_cancel_left_eq,
    List.append_cancel_right_eq] at characters
  exact String.toList_injective characters

/-- A clock that stands still. -/
def clockAt (now : String) : RebuildClock plainLibrary where
  validatedAt := ⟨now, rfl⟩
  stamp := fun _ => ⟨⟨now, rfl⟩, ⟨now, rfl⟩, ⟨now, rfl⟩⟩

/-- A worker on Windows with one backend. -/
def windowsWorker : ValidWorker plainLibrary :=
  ⟨{ workerId := "wrk_win_01"
     identity := "windows worker"
     allowedTaskTypes := ["url_check"]
     backendIds := ["backend:url_check:v0"]
     backendClasses := [.localTool]
     manifestHash := some "worker_win_01"
     createdAt := "2026-01-01T00:00:00Z"
     updatedAt := "2026-01-01T00:00:00Z" },
    { workerId := by decide
      identity := by decide
      capabilities := by decide
      allowedTaskTypes := by decide
      allowedDataLabels := by decide
      backendIds := by decide
      manifestHash := by
        rintro _ ⟨⟩
        decide
      createdAt := rfl
      updatedAt := rfl }⟩

/-- A local tool under an id of its own. -/
def localTool (backendId : String) (named : Named backendId) : ValidBackend plainLibrary :=
  ⟨{ backendId := backendId
     backendClass := .localTool
     capacityNodeId := "capnode:tool:url_check:v0"
     displayName := "URL check"
     version := "v0"
     supportedTaskTypes := ["url_check"]
     executionLocation := "local_machine"
     manifestHash := "backend_url_check_v0" },
    { backendId := named
      capacityNodeId := show Named "capnode:tool:url_check:v0" by decide
      displayName := show Named "URL check" by decide
      version := show Named "v0" by decide
      supportedTaskTypes := show ∀ text ∈ ["url_check"], Named text by decide
      executionLocation := show Named "local_machine" by decide
      manifestHash := show Named "backend_url_check_v0" by decide
      health := by simp
      costModel := CostModel.valid_default
      policyConstraints := ⟨rfl, by simp⟩ }⟩

/-- The backend of the worker. -/
def urlCheck : ValidBackend plainLibrary :=
  localTool "backend:url_check:v0" (by decide)

/-- The document of the worker's manifest. -/
def windowsWorkerDocument : GivenManifest (ValidWorker plainLibrary) :=
  .document (ordered windowsWorker.1.modelDump) (plain_ordered _ windowsWorker.1.plain_dump)

/-- The document validates as the manifest. -/
theorem windowsWorker_validated (now : Reading plainLibrary) :
    validatedWorker plainLibrary now windowsWorkerDocument = some windowsWorker :=
  (readWorker_iff plainLibrary now _ windowsWorker).mpr
    (CapacityWorkerManifest.modelValidate_dump now windowsWorker.1 windowsWorker.2)

/-- The worker may execute its backend. -/
theorem windowsWorker_fits : Fits [urlCheck.1] windowsWorker.1.routed := by
  right
  intro backendId named
  have same : backendId = "backend:url_check:v0" := List.mem_singleton.mp named
  subst same
  exact ⟨urlCheck.1, rfl, by decide⟩

end CapacityTable

/-- A worker given as a document and its backend are projected, and stay so while time passes. -/
theorem capacityTable_exact_two : ∃ nodes after,
    rebuildCapacityNodes framed (clockAt "2026-01-01T00:00:00Z") [windowsWorkerDocument]
      [.model urlCheck] .empty = .ok (nodes, after) ∧
    ExactProjection framed (clockAt "2026-01-01T00:00:00Z") (clockAt "2026-01-02T00:00:00Z")
      [windowsWorkerDocument] [.model urlCheck] nodes after := by
  have validated := windowsWorker_validated (clockAt "2026-01-01T00:00:00Z").validatedAt
  obtain ⟨nodes, projected⟩ := (projectedNodes_isOk_iff framed
    (clockAt "2026-01-01T00:00:00Z").stamp [windowsWorker] [urlCheck]).mpr (by decide)
  have returned := (rebuildCapacityNodes_ok_iff framed (clockAt "2026-01-01T00:00:00Z")
    [windowsWorkerDocument] [.model urlCheck] .empty _ nodes).mpr ⟨[windowsWorker], [urlCheck],
      .cons validated .nil, .cons rfl .nil, by decide,
      by simpa using windowsWorker_fits, projected, rfl⟩
  refine ⟨nodes, _, returned, (capacityTable_exact_iff framed _ (clockAt "2026-01-02T00:00:00Z")
    _ _ (fun _ _ _ _ _ _ => framed_separates _ _) .empty _ nodes returned).mpr ⟨?_, .inr ?_⟩⟩
  · have workers : givenWorkers [windowsWorkerDocument]
        (clockAt "2026-01-01T00:00:00Z").validatedAt = [windowsWorker] :=
      filterMap_of_forall₂ _ _ _ (.cons validated .nil)
    rw [workers]
    decide
  · decide

/-- Two backends that give their nodes one id: two nodes are returned that are never both
listed. -/
theorem capacityTable_overwrites : ∃ nodes after,
    rebuildCapacityNodes framed (clockAt "2026-01-01T00:00:00Z") []
      [.model urlCheck, .model (localTool "backend:url_check:v1" (by decide))] .empty =
        .ok (nodes, after) ∧
    nodes.length = 2 ∧
    ∀ listed, listCapacityNodes plainLibrary after = .ok listed →
      ¬ listed.Perm (nodes.map (fun node => node.1.reordered)) := by
  have located : ∀ backend ∈ [urlCheck, localTool "backend:url_check:v1" (by decide)],
      Located backend.1 ∧ Projectable backend.1 := by decide
  obtain ⟨nodes, projected⟩ := (projectedNodes_isOk_iff framed
    (clockAt "2026-01-01T00:00:00Z").stamp [] _).mpr (fun backend listed => (located backend listed).2)
  have ids := projectedNodes_ids framed (clockAt "2026-01-01T00:00:00Z").stamp [] _ nodes projected
  refine ⟨nodes, _, (rebuildCapacityNodes_ok_iff framed _ _ _ .empty _ nodes).mpr ⟨[], _, .nil,
    .cons rfl (.cons rfl .nil), fun backend listed => (located backend listed).1, by simp, projected,
    rfl⟩, ?_, ?_⟩
  · rw [← List.length_map, ids]
    rfl
  · intro listed read permuted
    have distinct := distinct_of_listed nodes .empty listed read
      (by rw [permuted.length_eq, List.length_map])
    rw [ids] at distinct
    revert distinct
    decide

end TokenBank
