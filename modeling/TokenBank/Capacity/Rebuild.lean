import TokenBank.Capacity.Registry

/-!
# What a rebuild does

When a rebuild returns, which workers and backends fit each other, which backends have a node,
and which rows the table has afterwards. Rows of nodes with ids of their own are all there, and
only then; read back they are the nodes, up to the order of the members of their constraints.
-/

namespace TokenBank

open Canonical Validation

namespace Capacity

/-! ## Checks of lists -/

/-- A check of every item passes exactly if each passes. -/
theorem forM_ok_iff {α : Type} (check : α → Except Raised Unit) (items : List α) :
    items.forM check = .ok () ↔ ∀ item ∈ items, check item = .ok () := by
  induction items with
  | nil => simp [pure, Except.pure]
  | cons item rest inductionHypothesis =>
    change (check item >>= fun _ => rest.forM check) = .ok () ↔ _
    rw [Store.bind_ok_iff, List.forall_mem_cons]
    constructor
    · rintro ⟨⟨⟩, here, later⟩
      exact ⟨here, inductionHypothesis.mp later⟩
    · rintro ⟨here, later⟩
      exact ⟨(), here, inductionHypothesis.mpr later⟩

/-- A validated value is there exactly if it is the value that validated. -/
@[simp] theorem validatedOr_ok_iff {α : Type} (validated : Option α) (value : α) :
    validatedOr validated = .ok value ↔ validated = some value := by
  cases validated <;> simp [validatedOr]

/-- Where items of one list succeed one by one, items of a list in another order do. -/
theorem mapM_ok_of_perm {α β : Type} (compute : α → Except Raised β) (items : List α)
    (results : List β) (each : List.Forall₂ (fun item result => compute item = .ok result)
      items results) (permuted : List α) (same : permuted.Perm items) :
    ∃ others, permuted.mapM compute = .ok others ∧ others.Perm results := by
  induction same generalizing results with
  | nil =>
    cases each
    exact ⟨[], rfl, .nil⟩
  | cons item _ inductionHypothesis =>
    cases each with
    | cons here later =>
      obtain ⟨others, computed, reordered⟩ := inductionHypothesis _ later
      rw [Store.mapM_ok_iff] at computed
      exact ⟨_, (Store.mapM_ok_iff _ _ _).mpr (.cons here computed), reordered.cons _⟩
  | swap first second rest =>
    cases each with
    | cons here later =>
      cases later with
      | cons next last =>
        exact ⟨_, (Store.mapM_ok_iff _ _ _).mpr (.cons next (.cons here last)), .swap _ _ _⟩
  | trans _ _ earlier later =>
    obtain ⟨middle, computed, reordered⟩ := later results each
    obtain ⟨others, computed_others, again⟩ :=
      earlier middle ((Store.mapM_ok_iff _ _ _).mp computed)
    exact ⟨others, computed_others, again.trans reordered⟩

/-! ## Pairing -/

/-- The last backend with an id is the one filed under it. -/
theorem backendsById_find? (backends : List BackendManifest) (backendId : String) :
    (backendsById backends).find? backendId =
      backends.reverse.find? (fun backend => backend.backendId = backendId) :=
  Store.Table.find?_foldl_upsert_last BackendManifest.backendId backends backendId

/-- A backend executes where its class must. -/
def Located (backend : BackendManifest) : Prop :=
  (backend.backendClass.apiGateway = true → backend.executionLocation = "mac_control_plane") ∧
    (backend.backendClass.workerLocal = true →
      backend.executionLocation ∈ ["local_machine", "windows_worker"])
  deriving Decidable

/-- A worker may execute a backend: it lists its class, and is the worker of the control plane
if the backend is a gateway. -/
def Pairs (worker : WorkerManifest) (backend : BackendManifest) : Prop :=
  backend.backendClass ∈ worker.backendClasses ∧
    if backend.backendClass.apiGateway = true then worker.workerId = controlPlaneGatewayWorkerId
    else backend.backendClass.workerLocal = true
  deriving Decidable

/-- A location is checked. -/
theorem validateBackendExecutionLocation_ok_iff (backend : BackendManifest) :
    validateBackendExecutionLocation backend = .ok () ↔ Located backend := by
  simp only [validateBackendExecutionLocation, Store.bind_ok_iff, Store.ensure_ok_iff, Located,
    exists_const]

/-- A named backend fits the worker that names it exactly if there is one with the id, it
executes where it must, and the worker may execute it. -/
theorem validatePair_ok_iff (backends : List BackendManifest) (worker : WorkerManifest)
    (backendId : String) (named : backendId ∈ worker.backendIds) :
    validatePair backends worker backendId = .ok () ↔
      ∃ backend, (backendsById backends).find? backendId = some backend ∧ Located backend ∧
        Pairs worker backend := by
  unfold validatePair
  cases found : (backendsById backends).find? backendId with
  | none => simp
  | some backend =>
    have same : backend.backendId = backendId := by
      rw [backendsById_find?] at found
      simpa using List.find?_some found
    have listed : backend.backendId ∈ worker.backendIds := same ▸ named
    simp only [Option.some.injEq, exists_eq_left']
    by_cases gateway : backend.backendClass.apiGateway = true
    · rw [if_pos gateway, validateGatewayWorker]
      simp only [Store.bind_ok_iff, Store.ensure_ok_iff, exists_const, Pairs, gateway, if_true,
        listed, true_and]
      rw [← validateBackendExecutionLocation_ok_iff]
      constructor
      · rintro ⟨_, located, here, listed⟩
        exact ⟨located, listed, here⟩
      · rintro ⟨located, listed, here⟩
        exact ⟨(), located, here, listed⟩
    · rw [if_neg gateway, validateWorkerLocalBackend]
      simp only [Store.bind_ok_iff, if_neg gateway, Store.ensure_ok_iff, exists_const, Pairs, listed,
        true_and]
      rw [← validateBackendExecutionLocation_ok_iff]
      constructor
      · rintro ⟨_, located, here, listed⟩
        exact ⟨located, listed, here⟩
      · rintro ⟨located, listed, here⟩
        exact ⟨(), located, here, listed⟩

/-- A worker fits the backends: it may execute every one it names. -/
def Fits (backends : List BackendManifest) (worker : WorkerManifest) : Prop :=
  backends = [] ∨ ∀ backendId ∈ worker.backendIds,
    ∃ backend, (backendsById backends).find? backendId = some backend ∧ Pairs worker backend

/-- Pairing checks every backend by itself and every worker by itself. -/
theorem validateRegistryPairing_ok_iff (workers : List WorkerManifest)
    (backends : List BackendManifest) : validateRegistryPairing workers backends = .ok () ↔
      (∀ backend ∈ backends, Located backend) ∧ ∀ worker ∈ workers, Fits backends worker := by
  have located : backends.forM validateBackendExecutionLocation = .ok () ↔
      ∀ backend ∈ backends, Located backend := by
    rw [forM_ok_iff]
    simp only [validateBackendExecutionLocation_ok_iff]
  rw [validateRegistryPairing, Store.bind_ok_iff]
  simp only [exists_const, located]
  refine and_congr_right (fun each => ?_)
  cases backends with
  | nil => simp [Fits, pure, Except.pure]
  | cons first rest =>
    simp only [List.isEmpty_cons, Bool.false_eq_true, if_false, forM_ok_iff, Fits, reduceCtorEq,
      false_or]
    refine forall₂_congr (fun worker _ => forall₂_congr (fun backendId named => ?_))
    rw [validatePair_ok_iff _ _ _ named]
    refine exists_congr (fun backend => and_congr_right (fun found => ?_))
    rw [backendsById_find?] at found
    have member := List.mem_reverse.mp (List.mem_of_find?_eq_some found)
    simp [each backend member]

/-! ## Projection -/

section Nodes

variable {library : CapacityLibrary} (digest : Digest)

/-- A backend has a node: it executes at a location that a node can have, and its constraints
have no forbidden key. -/
def Projectable (backend : BackendManifest) : Prop :=
  (literal ExecutionLocation.literals ExecutionLocation.text
      (.str backend.executionLocation)).isSome = true ∧
    BaseModel.hasForbiddenKey (.obj backend.policyConstraints) = false
  deriving Decidable

/-- A backend is projected to its node at the location it executes at. -/
theorem projectBackendManifest_ok_iff (stamp : NodeStamp library) (backend : ValidBackend library)
    (node : ValidNode library) : projectBackendManifest library stamp backend = .ok node ↔
      ∃ location, literal ExecutionLocation.literals ExecutionLocation.text
          (.str backend.1.executionLocation) = some location ∧
        BaseModel.hasForbiddenKey (.obj backend.1.policyConstraints) = false ∧
        backendNode library stamp backend.1 location = node.1 := by
  unfold projectBackendManifest
  cases literal ExecutionLocation.literals ExecutionLocation.text
      (.str backend.1.executionLocation) with
  | none => simp
  | some location =>
    simp only [Option.some.injEq, exists_eq_left']
    split
    · rename_i allowed
      simp only [allowed, true_and, Except.ok.injEq, Subtype.ext_iff]
    · rename_i forbidden
      simp [forbidden]

/-- A backend is projected exactly if it has a node, whatever the clock reads. -/
theorem projectBackendManifest_isOk_iff (stamp : NodeStamp library)
    (backend : ValidBackend library) :
    (∃ node, projectBackendManifest library stamp backend = .ok node) ↔ Projectable backend.1 := by
  constructor
  · rintro ⟨node, projected⟩
    obtain ⟨location, here, allowed, -⟩ :=
      (projectBackendManifest_ok_iff stamp backend node).mp projected
    exact ⟨by simp [here], allowed⟩
  · rintro ⟨located, allowed⟩
    obtain ⟨location, here⟩ := Option.isSome_iff_exists.mp located
    exact ⟨⟨_, backendNode_valid library stamp backend location allowed⟩,
      (projectBackendManifest_ok_iff stamp backend _).mpr ⟨location, here, allowed, rfl⟩⟩

/-- The nodes of the workers. -/
def workerNodes (stamp : Nat → NodeStamp library) (workers : List (ValidWorker library)) :
    List (ValidNode library) :=
  workers.zipIdx.map (fun (worker, position) =>
    projectWorkerManifest library digest (stamp position) worker)

/-- The nodes are those of the workers and, one by one, those of the backends. -/
theorem projectedNodes_ok_iff (stamp : Nat → NodeStamp library)
    (workers : List (ValidWorker library)) (backends : List (ValidBackend library))
    (nodes : List (ValidNode library)) :
    projectedNodes digest stamp workers backends = .ok nodes ↔
      ∃ backendNodes, List.Forall₂ (fun (entry : ValidBackend library × Nat) node =>
          projectBackendManifest library (stamp entry.2) entry.1 = .ok node)
        (backends.zipIdx workers.length) backendNodes ∧
        workerNodes digest stamp workers ++ backendNodes = nodes := by
  rw [projectedNodes, Store.bind_ok_iff]
  simp only [Store.mapM_ok_iff, pure, Except.pure, Except.ok.injEq]
  rfl

/-- Nodes are projected exactly if every backend has one. -/
theorem projectedNodes_isOk_iff (stamp : Nat → NodeStamp library)
    (workers : List (ValidWorker library)) (backends : List (ValidBackend library)) :
    (∃ nodes, projectedNodes digest stamp workers backends = .ok nodes) ↔
      ∀ backend ∈ backends, Projectable backend.1 := by
  simp only [projectedNodes_ok_iff]
  generalize workers.length = start
  have each : (∃ backendNodes, List.Forall₂ (fun (entry : ValidBackend library × Nat) node =>
      projectBackendManifest library (stamp entry.2) entry.1 = .ok node)
        (backends.zipIdx start) backendNodes) ↔ ∀ backend ∈ backends, Projectable backend.1 := by
    induction backends generalizing start with
    | nil => simp
    | cons backend rest inductionHypothesis =>
      rw [List.forall_mem_cons, ← inductionHypothesis (start + 1),
        ← projectBackendManifest_isOk_iff (stamp start) backend, List.zipIdx_cons]
      constructor
      · rintro ⟨_, _ | ⟨here, later⟩⟩
        exact ⟨⟨_, here⟩, ⟨_, later⟩⟩
      · rintro ⟨⟨_, here⟩, ⟨_, later⟩⟩
        exact ⟨_, .cons here later⟩
  rw [← each]
  constructor
  · rintro ⟨nodes, backendNodes, projected, -⟩
    exact ⟨backendNodes, projected⟩
  · rintro ⟨backendNodes, projected⟩
    exact ⟨_, backendNodes, projected, rfl⟩

/-- The ids of the nodes of manifests. -/
def nodeIds (workers : List CapacityWorkerManifest) (backends : List BackendManifest) :
    List String :=
  workers.map (fun worker => capacityNodeId worker.workerId) ++
    backends.map BackendManifest.capacityNodeId

/-- Nodes have the ids that their manifests give them. -/
theorem projectedNodes_ids (stamp : Nat → NodeStamp library)
    (workers : List (ValidWorker library)) (backends : List (ValidBackend library))
    (nodes : List (ValidNode library))
    (projected : projectedNodes digest stamp workers backends = .ok nodes) :
    nodes.map (fun node => node.1.capacityNodeId) =
      nodeIds (workers.map (·.1)) (backends.map (·.1)) := by
  obtain ⟨backendNodes, each, rfl⟩ := (projectedNodes_ok_iff _ _ _ _ _).mp projected
  have of_workers : (workerNodes digest stamp workers).map (fun node => node.1.capacityNodeId) =
      workers.map (fun worker => capacityNodeId worker.1.workerId) := by
    conv_rhs => rw [← List.zipIdx_map_fst 0 workers]
    rw [workerNodes, List.map_map, List.map_map]
    rfl
  have of_backends : backendNodes.map (fun node => node.1.capacityNodeId) =
      backends.map (fun backend => backend.1.capacityNodeId) := by
    clear projected
    generalize workers.length = start at each
    induction backends generalizing start backendNodes with
    | nil =>
      cases each
      rfl
    | cons backend rest inductionHypothesis =>
      rw [List.zipIdx_cons] at each
      cases each with
      | cons here later =>
        obtain ⟨location, -, -, same⟩ := (projectBackendManifest_ok_iff _ _ _).mp here
        rw [List.map_cons, List.map_cons, ← same, inductionHypothesis _ _ later]
        rfl
  rw [List.map_append, of_workers, of_backends, nodeIds, List.map_map, List.map_map]
  rfl

/-! ## Rows -/

/-- The stored nodes depend on the texts of the rows alone. -/
theorem listCapacityNodes_texts (table : Store.Table String StoredCapacityNode) :
    listCapacityNodes library table =
      ((table.entries.insertionSort (fun left right => left.1 ≤ right.1)).map
        (fun entry => entry.2.bodyJson)).mapM (fun text => validatedOr ((jsonLoads text).bind
          (CapacityNode.modelValidate library.toModelLibrary))) := by
  rw [List.mapM_map]
  rfl

/-- The rows that a deletion leaves have ids of nodes. -/
theorem deleted_only (nodes : List (ValidNode library))
    (table : Store.Table String StoredCapacityNode) (asked : String)
    (other : asked ∉ nodes.map (fun node => node.1.capacityNodeId)) :
    (table.delete (fun nodeId _ => !(nodes.map (fun node => node.1.capacityNodeId)).contains
      nodeId)).find? asked = none := by
  rw [Store.Table.find?_delete]
  cases table.find? asked with
  | none => rfl
  | some row => simpa using other

/-- Nodes with ids of their own are all listed, and nothing else is. -/
theorem listed_of_distinct (nodes : List (ValidNode library))
    (table : Store.Table String StoredCapacityNode)
    (distinct : (nodes.map (fun node => node.1.capacityNodeId)).Nodup) :
    ∃ listed, listCapacityNodes library (replaceNodes nodes table) = .ok listed ∧
      listed.Perm (nodes.map (fun node => node.1.reordered)) := by
  have rows := Store.Table.entries_replaced (fun node : ValidNode library => node.1.capacityNodeId)
    (fun node => nodeRow node.1)
    (fun node stored => { nodeRow node.1 with createdAt := stored.createdAt })
    StoredCapacityNode.bodyJson (fun _ _ => rfl) nodes distinct _ (deleted_only nodes table)
  have texts := rows.map Prod.snd
  rw [List.map_map, List.map_map] at texts
  have sorted := ((List.perm_insertionSort (fun left right => left.1 ≤ right.1)
    (replaceNodes nodes table).entries).map (fun entry => entry.2.bodyJson)).trans texts
  rw [listCapacityNodes_texts]
  refine mapM_ok_of_perm _ _ _ ?_ _ sorted
  rw [List.forall₂_map_left_iff, List.forall₂_map_right_iff, List.forall₂_same]
  intro node _
  exact (validatedOr_ok_iff _ _).mpr (node.1.reread library.toModelLibrary node.2)

/-- Nodes that are all listed have ids of their own. -/
theorem distinct_of_listed (nodes : List (ValidNode library))
    (table : Store.Table String StoredCapacityNode) (listed : List CapacityNode)
    (read : listCapacityNodes library (replaceNodes nodes table) = .ok listed)
    (all : nodes.length ≤ listed.length) :
    (nodes.map (fun node => node.1.capacityNodeId)).Nodup := by
  have counted := ((Store.mapM_ok_iff _ _ _).mp read).length_eq
  rw [(List.perm_insertionSort _ _).length_eq] at counted
  exact Store.Table.distinct_of_replaced (fun node : ValidNode library => node.1.capacityNodeId)
    (fun node => nodeRow node.1)
    (fun node stored => { nodeRow node.1 with createdAt := stored.createdAt }) nodes _
    (deleted_only nodes table) (counted.symm ▸ all)

/-- A rebuild validates every manifest, pairs them, and files the nodes they are projected to. -/
theorem rebuildCapacityNodes_ok_iff (clock : RebuildClock library)
    (workerManifests : List (GivenManifest (ValidWorker library)))
    (backendManifests : List (GivenManifest (ValidBackend library)))
    (table after : Store.Table String StoredCapacityNode) (nodes : List (ValidNode library)) :
    rebuildCapacityNodes digest clock workerManifests backendManifests table =
        .ok (nodes, after) ↔
      ∃ workers backends,
        List.Forall₂ (fun given worker => validatedWorker library clock.validatedAt given =
          some worker) workerManifests workers ∧
        List.Forall₂ (fun given backend => validatedBackend library clock.validatedAt given =
          some backend) backendManifests backends ∧
        (∀ backend ∈ backends, Located backend.1) ∧
        (∀ worker ∈ workers, Fits (backends.map (·.1)) worker.1.routed) ∧
        projectedNodes digest clock.stamp workers backends = .ok nodes ∧
        replaceNodes nodes table = after := by
  simp only [rebuildCapacityNodes, Store.bind_ok_iff, Store.mapM_ok_iff, validatedOr_ok_iff, pure,
    Except.pure, Except.ok.injEq, Prod.mk.injEq]
  constructor
  · rintro ⟨workers, validated_workers, backends, validated_backends, _, paired, projected, here,
      rfl, rfl⟩
    obtain ⟨located, fits⟩ := (validateRegistryPairing_ok_iff _ _).mp paired
    exact ⟨workers, backends, validated_workers, validated_backends,
      List.forall_mem_map.mp located, List.forall_mem_map.mp fits, here, rfl⟩
  · rintro ⟨workers, backends, validated_workers, validated_backends, located, fits, here, rfl⟩
    have paired := (validateRegistryPairing_ok_iff _ _).mpr
      ⟨List.forall_mem_map.mpr located, List.forall_mem_map.mpr fits⟩
    exact ⟨workers, validated_workers, backends, validated_backends, (), paired, nodes, here, rfl,
      rfl⟩

end Nodes

end Capacity

end TokenBank
