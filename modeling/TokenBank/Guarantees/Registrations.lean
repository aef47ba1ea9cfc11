import TokenBank.Capacity.Bootstrap
import TokenBank.Guarantees.CapacityTable
import TokenBank.Order.Ranking

/-!
# Registrations of workers

A registration stores the manifest before it rebuilds the capacity nodes, and the rebuild looks
at every stored manifest. While each request either is refused before it is stored or names
backends that the configuration has and that its worker may execute, a refused request changes
nothing, the rebuild goes on to succeed, and a request succeeds or fails as it would have done at
first. One manifest that is stored and does not fit makes every later rebuild fail.
-/

namespace TokenBank

open Canonical Validation Capacity CapacityPlane

namespace Registrations

/-! ## What the configuration has -/

section Configured

variable {library : CapacityLibrary} (runtime : PythonRuntime) (config : ConfigDocuments)

/-- A manifest is what the document of a backend's entry validates as. -/
def OfBackendEntry (now : Reading library) (entry : Json) (backend : ValidBackend library) : Prop :=
  ∃ document, Bootstrap.backendDocument runtime entry = .ok document ∧
    BackendManifest.modelValidate (library.at now) document = some backend.1

/-- A manifest is what the document of a worker's entry validates as. -/
def OfWorkerEntry (now : Reading library) (entry : Json) (worker : ValidWorker library) : Prop :=
  ∃ document, Bootstrap.workerDocument entry = .ok document ∧
    readWorker library now document = some worker

/-- A configured backend has the manifest that the document of its entry validates as. -/
theorem backendManifestFromConfig_ok_iff (now : Reading library) (entry : Json)
    (written : plain entry = true) (backend : ValidBackend library) :
    Bootstrap.backendManifestFromConfig now runtime entry written = .ok backend ↔
      OfBackendEntry runtime now entry backend := by
  unfold Bootstrap.backendManifestFromConfig OfBackendEntry
  split
  · rename_i raised found
    simp [found]
  · rename_i document found
    rw [validatedOr_ok_iff, readBackend_iff]
    simp [found]

/-- Items are related one by one whether or not what holds of them is kept along. -/
theorem forall₂_attachWith {α β : Type} {holds : α → Prop} (related : α → β → Prop)
    (items : List α) (each : ∀ item ∈ items, holds item) (values : List β) :
    List.Forall₂ (fun (item : { item // holds item }) value => related item.1 value)
      (items.attachWith holds each) values ↔ List.Forall₂ related items values := by
  conv_rhs => rw [← List.attachWith_map_subtype_val each]
  exact List.forall₂_map_left_iff.symm

/-- The configured backends have the manifests of their entries, one by one. -/
theorem loadBackendManifests_ok_iff (now : Reading library)
    (backends : List (ValidBackend library)) :
    Bootstrap.loadBackendManifests now config runtime = .ok backends ↔
      ∃ backendEntries,
        Bootstrap.entries config.backendRegistry "backend_registry" "backends" =
          .ok backendEntries ∧
        List.Forall₂ (OfBackendEntry runtime now) backendEntries backends := by
  unfold Bootstrap.loadBackendManifests
  split
  · rename_i raised found
    simp [found]
  · rename_i backendEntries found
    simp only [Store.mapM_ok_iff, backendManifestFromConfig_ok_iff, found, Except.ok.injEq,
      exists_eq_left']
    exact forall₂_attachWith (OfBackendEntry runtime now) _ _ _

/-- The configured workers have the manifests of their entries, one by one. -/
theorem workerManifestsFromConfig_ok_iff (now : Reading library)
    (workers : List (ValidWorker library)) :
    Bootstrap.workerManifestsFromConfig now config = .ok workers ↔
      ∃ workerEntries,
        Bootstrap.entries config.capacityRegistry "capacity_registry" "worker_manifests" =
          .ok workerEntries ∧
        List.Forall₂ (OfWorkerEntry now) workerEntries workers := by
  simp only [Bootstrap.workerManifestsFromConfig, Store.bind_ok_iff, Store.mapM_ok_iff,
    validatedOr_ok_iff]
  rfl

/-- The configured backends are alike at every time. -/
theorem loadBackendManifests_alike (earlier later : Reading library)
    (backends : List (ValidBackend library))
    (loaded : Bootstrap.loadBackendManifests earlier config runtime = .ok backends) :
    ∃ again, Bootstrap.loadBackendManifests later config runtime = .ok again ∧
      again.map (fun backend => backend.1.undated) =
        backends.map (fun backend => backend.1.undated) := by
  obtain ⟨backendEntries, found, each⟩ := (loadBackendManifests_ok_iff _ _ _ _).mp loaded
  have written := Bootstrap.entries_plain _ config.written.1 _ _ _ found
  have reread (entry : Json) (inEntries : entry ∈ backendEntries) (backend : ValidBackend library)
      (here : OfBackendEntry runtime earlier entry backend) :
      ∃ other : ValidBackend library, OfBackendEntry runtime later entry other ∧
        other.1.undated = backend.1.undated := by
    obtain ⟨document, made, validated⟩ := here
    have plain_document := Bootstrap.backendDocument_plain runtime entry (written entry inEntries)
      document made
    obtain ⟨other, again, same⟩ := CapacityTable.validatedBackend_alike earlier later
      (.document document plain_document) backend
        ((readBackend_iff library earlier document plain_document backend).mpr validated)
    exact ⟨other, ⟨document, made,
      (readBackend_iff library later document plain_document other).mp again⟩, same⟩
  obtain ⟨again, each_again, alike⟩ :=
    CapacityTable.forall₂_again _ _ _ backendEntries backends reread each
  exact ⟨again, (loadBackendManifests_ok_iff _ _ _ _).mpr ⟨backendEntries, found, each_again⟩,
    CapacityTable.map_eq_of_forall₂ _ _ _ alike⟩

/-- The configured workers are alike at every time. -/
theorem workerManifestsFromConfig_alike (earlier later : Reading library)
    (workers : List (ValidWorker library))
    (loaded : Bootstrap.workerManifestsFromConfig earlier config = .ok workers) :
    ∃ again, Bootstrap.workerManifestsFromConfig later config = .ok again ∧
      again.map (fun worker => worker.1.undated) =
        workers.map (fun worker => worker.1.undated) := by
  obtain ⟨workerEntries, found, each⟩ := (workerManifestsFromConfig_ok_iff _ _ _).mp loaded
  have reread (entry : Json) (_ : entry ∈ workerEntries) (worker : ValidWorker library)
      (here : OfWorkerEntry earlier entry worker) :
      ∃ other : ValidWorker library, OfWorkerEntry later entry other ∧
        other.1.undated = worker.1.undated := by
    obtain ⟨document, made, read⟩ := here
    obtain ⟨other, again, same⟩ := CapacityTable.readWorker_alike earlier later document worker read
    exact ⟨other, ⟨document, made, again⟩, same⟩
  obtain ⟨again, each_again, alike⟩ :=
    CapacityTable.forall₂_again _ _ _ workerEntries workers reread each
  exact ⟨again, (workerManifestsFromConfig_ok_iff _ _ _).mpr ⟨workerEntries, found, each_again⟩,
    CapacityTable.map_eq_of_forall₂ _ _ _ alike⟩

end Configured

/-! ## What a rebuild needs -/

section Rebuilding

variable {library : CapacityLibrary} (digest : Digest) (runtime : PythonRuntime)
  (config : ConfigDocuments)

/-- Every stored manifest is stored under the id of its worker. -/
def Filed (library : CapacityLibrary) (capacity : CapacityPlane) : Prop :=
  ∀ (now : Reading library) workerId row worker,
    capacity.plane.workerManifests.find? workerId = some row →
    storedWorker now row = some worker → worker.1.workerId = workerId

/-- The worker that counts under an id: the stored one, or the last one configured. -/
def effective (now : Reading library) (configured : List (ValidWorker library))
    (capacity : CapacityPlane) (workerId : String) : Option (ValidWorker library) :=
  ((capacity.plane.workerManifests.find? workerId).bind (storedWorker now)).or
    (configured.reverse.find? (fun worker => worker.1.workerId = workerId))

/-- The nodes can be rebuilt: all manifests validate, every backend executes where it must and
has a node, and every worker that counts fits the backends. -/
structure Rebuildable (now : Reading library) (capacity : CapacityPlane)
    (configured : List (ValidWorker library)) (backends : List (ValidBackend library)) : Prop where
  workers_loaded : Bootstrap.workerManifestsFromConfig now config = .ok configured
  backends_loaded : Bootstrap.loadBackendManifests now config runtime = .ok backends
  readable : ∀ workerId row, capacity.plane.workerManifests.find? workerId = some row →
    ∃ worker : ValidWorker library, storedWorker now row = some worker
  sound : ∀ backend ∈ backends, Located backend.1 ∧ Projectable backend.1
  fits : ∀ workerId worker, effective now configured capacity workerId = some worker →
    Fits (backends.map (·.1)) worker.1.routed

/-- The stored manifests, in order, are those of the rows. -/
theorem storedWorkerManifests_ok_iff (now : Reading library) (capacity : CapacityPlane)
    (stored : List (ValidWorker library)) :
    storedWorkerManifests now capacity = .ok stored ↔
      List.Forall₂ (fun entry worker => storedWorker now entry.2 = some worker)
        (capacity.plane.workerManifests.entries.insertionSort
          (fun left right => left.1 ≤ right.1)) stored := by
  simp only [storedWorkerManifests, Store.mapM_ok_iff, validatedOr_ok_iff]

/-- A row of the stored manifests in order is a row of the table. -/
theorem mem_sorted_iff {ν : Type} (table : Store.Table String ν) (key : String) (row : ν) :
    (key, row) ∈ table.entries.insertionSort (fun left right => left.1 ≤ right.1) ↔
      table.find? key = some row := by
  rw [List.mem_insertionSort, Store.Table.mem_entries_iff]

/-- The stored manifests can be read exactly if each can. -/
theorem storedWorkerManifests_isOk_iff (now : Reading library) (capacity : CapacityPlane) :
    (∃ stored : List (ValidWorker library), storedWorkerManifests now capacity = .ok stored) ↔
      ∀ workerId row, capacity.plane.workerManifests.find? workerId = some row →
        ∃ worker : ValidWorker library, storedWorker now row = some worker := by
  simp only [storedWorkerManifests_ok_iff, ← mem_sorted_iff]
  generalize capacity.plane.workerManifests.entries.insertionSort
    (fun left right => left.1 ≤ right.1) = rows
  induction rows with
  | nil => simp
  | cons entry rest inductionHypothesis =>
    constructor
    · rintro ⟨_, _ | ⟨here, later⟩⟩ workerId row stored
      rcases List.mem_cons.mp stored with same | inRest
      · subst same
        exact ⟨_, here⟩
      · exact inductionHypothesis.mp ⟨_, later⟩ workerId row inRest
    · intro each
      obtain ⟨worker, here⟩ := each entry.1 entry.2 List.mem_cons_self
      obtain ⟨stored, later⟩ := inductionHypothesis.mpr (fun workerId row inRest =>
        each workerId row (List.mem_cons_of_mem _ inRest))
      exact ⟨_, .cons here later⟩

/-- Stored manifests have the ids they are stored under. -/
theorem stored_ids (now : Reading library) (capacity : CapacityPlane)
    (filed : Filed library capacity) (rows : List (String × WorkerManifestRow))
    (among : ∀ key row, (key, row) ∈ rows →
      capacity.plane.workerManifests.find? key = some row) (stored : List (ValidWorker library))
    (read : List.Forall₂ (fun entry worker => storedWorker now entry.2 = some worker) rows stored) :
    stored.map (fun worker => worker.1.workerId) = rows.map Prod.fst := by
  induction read with
  | nil => rfl
  | cons here _ inductionHypothesis =>
    rw [List.map_cons, List.map_cons,
      filed now _ _ _ (among _ _ List.mem_cons_self) here,
      inductionHypothesis (fun key row inRest => among key row (List.mem_cons_of_mem _ inRest))]

/-- A worker is the last stored one with its id exactly if its row is stored under the id. -/
theorem stored_find? (now : Reading library) (capacity : CapacityPlane)
    (filed : Filed library capacity) (stored : List (ValidWorker library))
    (read : storedWorkerManifests now capacity = .ok stored) (workerId : String) :
    stored.reverse.find? (fun worker => worker.1.workerId = workerId) =
      (capacity.plane.workerManifests.find? workerId).bind (storedWorker now) := by
  rw [storedWorkerManifests_ok_iff] at read
  have distinct : (stored.map (fun worker => worker.1.workerId)).Nodup := by
    rw [stored_ids now capacity filed _ (fun key row => (mem_sorted_iff _ key row).mp) stored read]
    exact ((List.perm_insertionSort _ _).map Prod.fst).nodup_iff.mpr
      capacity.plane.workerManifests.distinct
  have distinct_reverse : (stored.reverse.map (fun worker => worker.1.workerId)).Nodup := by
    rw [List.map_reverse]
    exact List.nodup_reverse.mpr distinct
  apply Option.ext
  intro worker
  rw [Ranking.find?_key_iff (fun worker : ValidWorker library => worker.1.workerId) _
    distinct_reverse, List.mem_reverse, Option.bind_eq_some_iff]
  constructor
  · rintro ⟨inStored, rfl⟩
    obtain ⟨entry, inRows, here⟩ := CapacityTable.forall₂_mem read.flip worker inStored
    have found := (mem_sorted_iff _ entry.1 entry.2).mp inRows
    rw [filed now entry.1 entry.2 worker found here]
    exact ⟨entry.2, found, here⟩
  · rintro ⟨row, found, here⟩
    obtain ⟨other, inStored, there⟩ := CapacityTable.forall₂_mem read (workerId, row)
      ((mem_sorted_iff _ workerId row).mpr found)
    rw [here, Option.some.injEq] at there
    exact ⟨there ▸ inStored, filed now workerId row worker found here⟩

/-- Given manifests that are models already are validated as they are. -/
theorem forall₂_models {α β : Type} (validated : β → Option α) (model : α → β)
    (same : ∀ value, validated (model value) = some value) (values others : List α) :
    List.Forall₂ (fun given value => validated given = some value) (values.map model) others ↔
      values = others := by
  rw [List.forall₂_map_left_iff]
  simp only [same, Option.some.injEq, List.forall₂_eq_eq_eq]

/-- A worker counts under its id exactly if it is the last one with it, stored ones last. -/
theorem effective_iff (now : Reading library) (capacity : CapacityPlane)
    (filed : Filed library capacity) (configured stored : List (ValidWorker library))
    (read : storedWorkerManifests now capacity = .ok stored) (workerId : String) :
    (workersById (configured ++ stored)).find? workerId =
      effective now configured capacity workerId := by
  rw [workersById, Store.Table.find?_foldl_upsert_last
    (fun worker : ValidWorker library => worker.1.workerId), List.reverse_append,
    List.find?_append, stored_find? now capacity filed stored read, effective]

/-- Every worker that counts satisfies what every worker to be projected does. -/
theorem forall_effective_iff (now : Reading library) (capacity : CapacityPlane)
    (filed : Filed library capacity) (configured stored : List (ValidWorker library))
    (read : storedWorkerManifests now capacity = .ok stored) (holds : ValidWorker library → Prop) :
    (∀ worker ∈ (workersById (configured ++ stored)).entries.map Prod.snd, holds worker) ↔
      ∀ workerId worker, effective now configured capacity workerId = some worker →
        holds worker := by
  simp only [← effective_iff now capacity filed configured stored read,
    ← Store.Table.mem_entries_iff, List.forall_mem_map]
  exact ⟨fun each workerId worker filed => each (workerId, worker) filed,
    fun each entry filed => each entry.1 entry.2 filed⟩

/-- The nodes are rebuilt exactly if they can be. -/
theorem rebuild_isOk_iff (clock : RebuildClock library) (capacity : CapacityPlane)
    (filed : Filed library capacity) :
    (∃ result, rebuildCapacityProjectionFromConfigAndDb digest runtime config clock capacity =
      .ok result) ↔
      ∃ configured backends,
        Rebuildable runtime config clock.validatedAt capacity configured backends := by
  have models := forall₂_models (validatedWorker library clock.validatedAt) .model (fun _ => rfl)
  have backend_models := forall₂_models (validatedBackend library clock.validatedAt) .model
    (fun _ => rfl)
  constructor
  · rintro ⟨result, rebuilt⟩
    simp only [rebuildCapacityProjectionFromConfigAndDb, Store.bind_ok_iff] at rebuilt
    obtain ⟨configured, workers_loaded, stored, read, backends, backends_loaded, ⟨nodes, after⟩,
      returned, -⟩ := rebuilt
    obtain ⟨workers, others, validated, validated_backends, located, fits, projected, -⟩ :=
      (rebuildCapacityNodes_ok_iff _ _ _ _ _ _ _).mp returned
    rw [models] at validated
    rw [backend_models] at validated_backends
    subst validated validated_backends
    have projectable := (projectedNodes_isOk_iff digest clock.stamp _ backends).mp ⟨nodes, projected⟩
    exact ⟨configured, backends, workers_loaded, backends_loaded,
      (storedWorkerManifests_isOk_iff clock.validatedAt capacity).mp ⟨stored, read⟩,
      fun backend listed => ⟨located backend listed, projectable backend listed⟩,
      (forall_effective_iff clock.validatedAt capacity filed configured stored read _).mp fits⟩
  · rintro ⟨configured, backends, workers_loaded, backends_loaded, readable, sound, fits⟩
    obtain ⟨stored, read⟩ := (storedWorkerManifests_isOk_iff clock.validatedAt capacity).mpr readable
    obtain ⟨nodes, projected⟩ := (projectedNodes_isOk_iff digest clock.stamp
      ((workersById (configured ++ stored)).entries.map Prod.snd) backends).mpr
        (fun backend listed => (sound backend listed).2)
    have returned := (rebuildCapacityNodes_ok_iff digest clock
      (((workersById (configured ++ stored)).entries.map Prod.snd).map .model)
      (backends.map .model) capacity.capacityNodes _ nodes).mpr ⟨_, _, (models _ _).mpr rfl,
        (backend_models _ _).mpr rfl, fun backend listed => (sound backend listed).1,
        (forall_effective_iff clock.validatedAt capacity filed configured stored read _).mpr fits,
        projected, rfl⟩
    refine ⟨(nodes.length,
      { capacity with capacityNodes := replaceNodes nodes capacity.capacityNodes }), ?_⟩
    simp only [rebuildCapacityProjectionFromConfigAndDb, workers_loaded, read, backends_loaded,
      returned, bind, Except.bind]
    rfl

/-- Workers alike but for timestamps are found alike. -/
theorem find?_alike (workers others : List (ValidWorker library))
    (alike : others.map (fun worker => worker.1.undated) =
      workers.map (fun worker => worker.1.undated)) (workerId : String) :
    (others.reverse.find? (fun worker => worker.1.workerId = workerId)).map
        (fun worker => worker.1.undated) =
      (workers.reverse.find? (fun worker => worker.1.workerId = workerId)).map
        (fun worker => worker.1.undated) := by
  have by_view (listed : List (ValidWorker library)) :
      (listed.reverse.find? (fun worker => worker.1.workerId = workerId)).map
          (fun worker => worker.1.undated) =
        (listed.map (fun worker => worker.1.undated)).reverse.find?
          (fun worker => worker.workerId = workerId) := by
    rw [← List.map_reverse, List.find?_map]
    rfl
  rw [by_view, by_view, alike]

/-- A stored manifest is read alike at every time. -/
theorem storedWorker_alike (earlier later : Reading library) (row : WorkerManifestRow)
    (worker : ValidWorker library) (read : storedWorker earlier row = some worker) :
    ∃ other : ValidWorker library, storedWorker later row = some other ∧
      other.1.undated = worker.1.undated := by
  obtain ⟨document, parsed, here⟩ := Option.bind_eq_some_iff.mp read
  obtain ⟨other, again, same⟩ := CapacityTable.readWorker_alike earlier later document worker here
  exact ⟨other, by rw [storedWorker, parsed, Option.bind_some, again], same⟩

/-- Whether the nodes can be rebuilt does not depend on the time. -/
theorem Rebuildable.at_other_time (earlier later : Reading library) (capacity : CapacityPlane)
    (configured : List (ValidWorker library)) (backends : List (ValidBackend library))
    (rebuildable : Rebuildable runtime config earlier capacity configured backends) :
    ∃ configured' backends', Rebuildable runtime config later capacity configured' backends' := by
  obtain ⟨configured', workers_loaded, alike_workers⟩ := workerManifestsFromConfig_alike config
    earlier later configured rebuildable.workers_loaded
  obtain ⟨backends', backends_loaded, alike_backends⟩ := loadBackendManifests_alike runtime config
    earlier later backends rebuildable.backends_loaded
  obtain ⟨located, projectable, fits⟩ :=
    CapacityTable.backends_again backends backends' alike_backends
  refine ⟨configured', backends', workers_loaded, backends_loaded, ?_, ?_, ?_⟩
  · intro workerId row found
    obtain ⟨worker, read⟩ := rebuildable.readable workerId row found
    obtain ⟨other, again, -⟩ := storedWorker_alike earlier later row worker read
    exact ⟨other, again⟩
  · intro backend listed
    exact ⟨located (fun known inBackends => (rebuildable.sound known inBackends).1) backend listed,
      projectable (fun known inBackends => (rebuildable.sound known inBackends).2) backend listed⟩
  · intro workerId other counts
    have known : ∃ worker, effective earlier configured capacity workerId = some worker ∧
        worker.1.undated = other.1.undated := by
      unfold effective at counts ⊢
      cases found : capacity.plane.workerManifests.find? workerId with
      | none =>
        rw [found, Option.bind_none, Option.none_or] at counts
        have alike := find?_alike configured configured' alike_workers workerId
        rw [counts, Option.map_some, eq_comm, Option.map_eq_some_iff] at alike
        exact alike
      | some row =>
        obtain ⟨worker, read⟩ := rebuildable.readable workerId row found
        obtain ⟨again, reread, same⟩ := storedWorker_alike earlier later row worker read
        rw [found, Option.bind_some, reread, Option.some_or, Option.some.injEq] at counts
        subst counts
        exact ⟨worker, by rw [Option.bind_some, read, Option.some_or], same.symm⟩
    obtain ⟨worker, counted, same⟩ := known
    have here := fits worker.1.undated.routed (rebuildable.fits workerId worker counted)
    rw [same] at here
    exact here

/-! ## One registration -/

/-- The control plane with the manifest of a worker stored. -/
def stored (capacity : CapacityPlane) (worker : ValidWorker library) (manifestHash writtenAt : String) :
    CapacityPlane :=
  { capacity with
    plane := capacity.plane.putWorkerManifest worker.1.workerId manifestHash worker.1.modelDump
      writtenAt }

/-- A stored manifest is read back, and every other is as it was. -/
theorem stored_find (capacity : CapacityPlane) (worker : ValidWorker library)
    (manifestHash writtenAt : String) : ∃ row,
      (∀ now : Reading library, storedWorker now row = some worker) ∧
      ∀ asked, (stored capacity worker manifestHash writtenAt).plane.workerManifests.find? asked =
        if asked = worker.1.workerId then some row
        else capacity.plane.workerManifests.find? asked := by
  refine ⟨_, ?_, fun asked => Store.Table.find?_upsert _ _ asked _ _⟩
  intro now
  have body : (((capacity.plane.workerManifests.find? worker.1.workerId).map
      (fun row : WorkerManifestRow => { row with
        manifestHash := manifestHash
        body := worker.1.modelDump
        updatedAt := writtenAt })).getD
      ⟨manifestHash, worker.1.modelDump, writtenAt, writtenAt⟩).body = worker.1.modelDump := by
    cases capacity.plane.workerManifests.find? worker.1.workerId <;> rfl
  rw [storedWorker, body, jsonLoads_canonicalJsonDumps _ worker.1.plain_dump, Option.bind_some,
    readWorker_iff]
  exact CapacityWorkerManifest.modelValidate_dump now worker.1 worker.2

/-- A stored manifest is stored under the id of its worker. -/
theorem stored_filed (capacity : CapacityPlane) (filed : Filed library capacity)
    (worker : ValidWorker library) (manifestHash writtenAt : String) :
    Filed library (stored capacity worker manifestHash writtenAt) := by
  obtain ⟨written, read, finds⟩ := stored_find capacity worker manifestHash writtenAt
  intro now workerId row other found here
  rw [finds] at found
  split at found
  · rename_i own
    cases found
    rw [read now, Option.some.injEq] at here
    rw [← here, own]
  · exact filed now workerId row other found here

/-- The nodes can be rebuilt with the manifest of a worker that fits the backends. -/
theorem Rebuildable.stored (now : Reading library) (capacity : CapacityPlane)
    (configured : List (ValidWorker library)) (backends : List (ValidBackend library))
    (rebuildable : Rebuildable runtime config now capacity configured backends)
    (worker : ValidWorker library) (fits : Fits (backends.map (·.1)) worker.1.routed)
    (manifestHash writtenAt : String) :
    Rebuildable runtime config now (Registrations.stored capacity worker manifestHash writtenAt)
      configured backends := by
  obtain ⟨written, read, finds⟩ := stored_find capacity worker manifestHash writtenAt
  refine ⟨rebuildable.workers_loaded, rebuildable.backends_loaded, ?_, rebuildable.sound, ?_⟩
  · intro workerId row found
    rw [finds] at found
    split at found
    · cases found
      exact ⟨worker, read now⟩
    · exact rebuildable.readable workerId row found
  · intro workerId other counts
    rw [effective, finds] at counts
    split at counts
    · rw [Option.bind_some, read now, Option.some_or, Option.some.injEq] at counts
      exact counts ▸ fits
    · exact rebuildable.fits workerId other counts

/-- A manifest that is stored counts. -/
theorem effective_stored (now : Reading library) (capacity : CapacityPlane)
    (configured : List (ValidWorker library)) (worker : ValidWorker library)
    (manifestHash writtenAt : String) :
    effective now configured (stored capacity worker manifestHash writtenAt) worker.1.workerId =
      some worker := by
  obtain ⟨written, read, finds⟩ := stored_find capacity worker manifestHash writtenAt
  rw [effective, finds, if_pos rfl, Option.bind_some, read now, Option.some_or]

/-- A rebuild leaves the other tables alone. -/
theorem rebuild_plane (clock : RebuildClock library) (capacity rebuilt : CapacityPlane) (count : Nat)
    (here : rebuildCapacityProjectionFromConfigAndDb digest runtime config clock capacity =
      .ok (count, rebuilt)) : rebuilt.plane = capacity.plane := by
  simp only [rebuildCapacityProjectionFromConfigAndDb, Store.bind_ok_iff] at here
  obtain ⟨_, -, _, -, _, -, _, -, returned⟩ := here
  cases returned
  rfl

/-- A registration is refused before the manifest is stored, or stores it and then fails or
succeeds with the rebuild. -/
theorem registerWorker_cases (request : RegistrationRequest library) (capacity : CapacityPlane) :
    (∃ raised, registeredManifest digest request.validatedAt request.payload = .error raised ∧
      registerWorker digest runtime config request capacity = (.error raised, capacity)) ∨
    ∃ worker manifestHash,
      registeredManifest digest request.validatedAt request.payload = .ok (worker, manifestHash) ∧
      ((∃ raised, rebuildCapacityProjectionFromConfigAndDb digest runtime config request.clock
          (stored capacity worker manifestHash request.writtenAt) = .error raised ∧
        registerWorker digest runtime config request capacity =
          (.error raised, stored capacity worker manifestHash request.writtenAt)) ∨
      ∃ count rebuilt answer, rebuildCapacityProjectionFromConfigAndDb digest runtime config
          request.clock (stored capacity worker manifestHash request.writtenAt) =
            .ok (count, rebuilt) ∧
        registerWorker digest runtime config request capacity = (.ok answer, rebuilt)) := by
  have upserted : upsertWorkerManifest digest request.validatedAt request.writtenAt request.payload
      capacity = (registeredManifest digest request.validatedAt request.payload).map
        (fun registered =>
          (registered.1, stored capacity registered.1 registered.2 request.writtenAt)) := by
    unfold upsertWorkerManifest
    cases registeredManifest digest request.validatedAt request.payload <;> rfl
  unfold registerWorker
  rw [upserted]
  cases registeredManifest digest request.validatedAt request.payload with
  | error raised => exact .inl ⟨raised, rfl, rfl⟩
  | ok registered =>
    obtain ⟨worker, manifestHash⟩ := registered
    refine .inr ⟨worker, manifestHash, rfl, ?_⟩
    simp only [Except.map]
    cases rebuildCapacityProjectionFromConfigAndDb digest runtime config request.clock
        (stored capacity worker manifestHash request.writtenAt) with
    | error raised => exact .inl ⟨raised, rfl, rfl⟩
    | ok result => exact .inr ⟨result.1, result.2, _, rfl, rfl⟩

/-! ## Runs -/

/-- The nodes can be rebuilt at any time, and manifests are stored under the ids of workers. -/
def Sound (library : CapacityLibrary) (capacity : CapacityPlane) : Prop :=
  Filed library capacity ∧ ∀ now : Reading library, ∃ configured backends,
    Rebuildable runtime config now capacity configured backends

/-- Whether the nodes can be rebuilt does not depend on the nodes. -/
theorem Sound.of_plane (capacity other : CapacityPlane) (same : other.plane = capacity.plane)
    (sound : Sound runtime config library capacity) : Sound runtime config library other := by
  obtain ⟨plane, nodes⟩ := capacity
  obtain ⟨otherPlane, otherNodes⟩ := other
  subst same
  refine ⟨sound.1, fun now => ?_⟩
  obtain ⟨configured, backends, rebuildable⟩ := sound.2 now
  exact ⟨configured, backends, rebuildable.workers_loaded, rebuildable.backends_loaded,
    rebuildable.readable, rebuildable.sound, rebuildable.fits⟩

/-- The request is refused before its manifest is stored, or its worker fits the configured
backends. -/
def Admissible (request : RegistrationRequest library) : Prop :=
  ∀ worker manifestHash,
    registeredManifest digest request.validatedAt request.payload = .ok (worker, manifestHash) →
    ∀ backends : List (ValidBackend library),
      Bootstrap.loadBackendManifests request.clock.validatedAt config runtime = .ok backends →
      Fits (backends.map (·.1)) worker.1.routed

/-- From a sound state the rebuild of a registration succeeds exactly if the worker fits. -/
theorem rebuild_stored_iff (capacity : CapacityPlane) (sound : Sound runtime config library capacity)
    (clock : RebuildClock library) (worker : ValidWorker library) (manifestHash writtenAt : String) :
    (∃ result, rebuildCapacityProjectionFromConfigAndDb digest runtime config clock
      (stored capacity worker manifestHash writtenAt) = .ok result) ↔
      ∀ backends : List (ValidBackend library),
        Bootstrap.loadBackendManifests clock.validatedAt config runtime = .ok backends →
        Fits (backends.map (·.1)) worker.1.routed := by
  rw [rebuild_isOk_iff digest runtime config clock _
    (stored_filed capacity sound.1 worker manifestHash writtenAt)]
  constructor
  · rintro ⟨configured, backends, rebuildable⟩ others loaded
    rw [rebuildable.backends_loaded, Except.ok.injEq] at loaded
    exact loaded ▸ rebuildable.fits _ worker
      (effective_stored clock.validatedAt capacity configured worker manifestHash writtenAt)
  · intro fits
    obtain ⟨configured, backends, rebuildable⟩ := sound.2 clock.validatedAt
    exact ⟨configured, backends, rebuildable.stored runtime config clock.validatedAt capacity
      configured backends worker (fits backends rebuildable.backends_loaded) manifestHash writtenAt⟩

/-- A stored worker that fits leaves the state sound. -/
theorem Sound.stored (capacity : CapacityPlane) (sound : Sound runtime config library capacity)
    (clock : RebuildClock library) (worker : ValidWorker library) (manifestHash writtenAt : String)
    (fits : ∀ backends : List (ValidBackend library),
      Bootstrap.loadBackendManifests clock.validatedAt config runtime = .ok backends →
      Fits (backends.map (·.1)) worker.1.routed) :
    Sound runtime config library
      (Registrations.stored capacity worker manifestHash writtenAt) := by
  refine ⟨stored_filed capacity sound.1 worker manifestHash writtenAt, fun now => ?_⟩
  obtain ⟨configured, backends, rebuildable⟩ := sound.2 clock.validatedAt
  exact (rebuildable.stored runtime config clock.validatedAt capacity configured backends worker
    (fits backends rebuildable.backends_loaded) manifestHash writtenAt).at_other_time runtime config
      clock.validatedAt now _ _ _

/-- An admissible request leaves a sound state sound, and unchanged if it fails. -/
theorem registerWorker_sound (request : RegistrationRequest library) (capacity : CapacityPlane)
    (sound : Sound runtime config library capacity)
    (admissible : Admissible digest runtime config request) :
    Sound runtime config library (registerWorker digest runtime config request capacity).2 ∧
      ∀ raised, (registerWorker digest runtime config request capacity).1 = .error raised →
        (registerWorker digest runtime config request capacity).2 = capacity := by
  rcases registerWorker_cases digest runtime config request capacity with
    ⟨raised, -, here⟩ | ⟨worker, manifestHash, registered, failed | succeeded⟩
  · rw [here]
    exact ⟨sound, fun _ _ => rfl⟩
  · obtain ⟨raised, rebuilt, -⟩ := failed
    obtain ⟨result, succeeds⟩ := (rebuild_stored_iff digest runtime config capacity sound
      request.clock worker manifestHash request.writtenAt).mpr
        (admissible worker manifestHash registered)
    rw [rebuilt] at succeeds
    cases succeeds
  · obtain ⟨count, rebuilt, answer, here, returned⟩ := succeeded
    rw [returned]
    exact ⟨Sound.of_plane runtime config _ _ (rebuild_plane digest runtime config _ _ _ count here)
      (sound.stored runtime config capacity request.clock worker manifestHash request.writtenAt
        (admissible worker manifestHash registered)), fun raised failed => by cases failed⟩

/-- A request succeeds from a sound state exactly if its manifest is valid and its worker fits. -/
theorem registerWorker_isOk_iff (request : RegistrationRequest library) (capacity : CapacityPlane)
    (sound : Sound runtime config library capacity) :
    (∃ answer, (registerWorker digest runtime config request capacity).1 = .ok answer) ↔
      Admissible digest runtime config request ∧ ∃ registered,
        registeredManifest digest request.validatedAt request.payload = .ok registered := by
  rcases registerWorker_cases digest runtime config request capacity with
    ⟨raised, refused, here⟩ | ⟨worker, manifestHash, registered, failed | succeeded⟩
  · simp [here, refused]
  · obtain ⟨raised, rebuilt, here⟩ := failed
    have misfit : ¬ Admissible digest runtime config request := by
      intro admissible
      obtain ⟨result, succeeds⟩ := (rebuild_stored_iff digest runtime config capacity sound
        request.clock worker manifestHash request.writtenAt).mpr
          (admissible worker manifestHash registered)
      rw [rebuilt] at succeeds
      cases succeeds
    simp [here, misfit]
  · obtain ⟨count, rebuilt, answer, here, returned⟩ := succeeded
    have fits := (rebuild_stored_iff digest runtime config capacity sound request.clock worker
      manifestHash request.writtenAt).mp ⟨_, here⟩
    refine iff_of_true ⟨answer, by rw [returned]⟩ ⟨?_, _, registered⟩
    intro other otherHash again
    rw [registered, Except.ok.injEq, Prod.mk.injEq] at again
    exact again.1 ▸ fits

/-- Whatever a request does, manifests are stored under the ids of workers. -/
theorem registerWorker_filed (request : RegistrationRequest library) (capacity : CapacityPlane)
    (filed : Filed library capacity) :
    Filed library (registerWorker digest runtime config request capacity).2 := by
  rcases registerWorker_cases digest runtime config request capacity with
    ⟨raised, -, here⟩ | ⟨worker, manifestHash, -, ⟨raised, -, here⟩ | succeeded⟩
  · rwa [here]
  · rw [here]
    exact stored_filed capacity filed worker manifestHash request.writtenAt
  · obtain ⟨count, rebuilt, answer, here, returned⟩ := succeeded
    have same := rebuild_plane digest runtime config _ _ _ count here
    rw [returned]
    intro now workerId row other found read
    rw [same] at found
    exact stored_filed capacity filed worker manifestHash request.writtenAt now workerId row other
      found read

/-- The nodes cannot be rebuilt while a manifest is stored that does not fit. -/
theorem rebuild_of_misfit (clock : RebuildClock library) (capacity : CapacityPlane)
    (filed : Filed library capacity) (workerId : String) (row : WorkerManifestRow)
    (worker : ValidWorker library)
    (found : capacity.plane.workerManifests.find? workerId = some row)
    (read : storedWorker clock.validatedAt row = some worker)
    (misfit : ∀ backends : List (ValidBackend library),
      Bootstrap.loadBackendManifests clock.validatedAt config runtime = .ok backends →
      ¬ Fits (backends.map (·.1)) worker.1.routed) :
    ∃ raised, rebuildCapacityProjectionFromConfigAndDb digest runtime config clock capacity =
      .error raised := by
  cases rebuilt : rebuildCapacityProjectionFromConfigAndDb digest runtime config clock capacity with
  | error raised => exact ⟨raised, rfl⟩
  | ok result =>
    obtain ⟨configured, backends, rebuildable⟩ :=
      (rebuild_isOk_iff digest runtime config clock capacity filed).mp ⟨result, rebuilt⟩
    exact absurd (rebuildable.fits workerId worker
      (by rw [effective, found, Option.bind_some, read, Option.some_or]))
      (misfit backends rebuildable.backends_loaded)

/-- No other worker can register while a manifest is stored that does not fit. -/
theorem registerWorker_of_misfit (request : RegistrationRequest library) (capacity : CapacityPlane)
    (filed : Filed library capacity) (workerId : String) (row : WorkerManifestRow)
    (worker : ValidWorker library)
    (found : capacity.plane.workerManifests.find? workerId = some row)
    (read : storedWorker request.clock.validatedAt row = some worker)
    (misfit : ∀ backends : List (ValidBackend library),
      Bootstrap.loadBackendManifests request.clock.validatedAt config runtime = .ok backends →
      ¬ Fits (backends.map (·.1)) worker.1.routed)
    (others : ∀ registered manifestHash,
      registeredManifest digest request.validatedAt request.payload =
        .ok (registered, manifestHash) → registered.1.workerId ≠ workerId) :
    ∃ raised, (registerWorker digest runtime config request capacity).1 = .error raised := by
  rcases registerWorker_cases digest runtime config request capacity with
    ⟨raised, -, here⟩ | ⟨registered, manifestHash, here, ⟨raised, -, failed⟩ | succeeded⟩
  · exact ⟨raised, by rw [here]⟩
  · exact ⟨raised, by rw [failed]⟩
  · obtain ⟨count, rebuilt, answer, returned, -⟩ := succeeded
    obtain ⟨written, -, finds⟩ := stored_find capacity registered manifestHash request.writtenAt
    obtain ⟨raised, refused⟩ := rebuild_of_misfit digest runtime config request.clock _
      (stored_filed capacity filed registered manifestHash request.writtenAt) workerId row worker
      (by rw [finds, if_neg (others registered manifestHash here).symm, found]) read misfit
    rw [refused] at returned
    cases returned

/-- The document of the manifest that a payload registers, with its hash. -/
def registeredDocument (workerId : Json) (payload : JsonObject) : Json :=
  let manifestPayload := Bootstrap.manifestPayload workerId
    (Json.getOr payload "capabilities" (Json.getOr payload "allowed_task_types" (.texts []))) payload
  .obj (manifestPayload ++
    [("manifest_hash", .str (canonicalJsonHash digest.sha256 (.obj manifestPayload)))])

/-- A payload registers what its document is read as. -/
theorem registeredManifest_of_read (now : Reading library) (payload : JsonObject) (workerId : Json)
    (here : Json.item payload "worker_id" = .ok workerId) (worker : ValidWorker library)
    (read : readWorker library now (registeredDocument digest workerId payload) = some worker) :
    ∃ manifestHash, registeredManifest digest now payload = .ok (worker, manifestHash) := by
  simp only [registeredManifest, Store.bind_ok_iff, validatedOr_ok_iff, pure, Except.pure,
    Except.ok.injEq, Prod.mk.injEq]
  exact ⟨_, workerId, here, worker, read, rfl, rfl⟩

/-- A payload registers alike at every time. -/
theorem registeredManifest_alike (earlier later : Reading library) (payload : JsonObject)
    (worker : ValidWorker library) (manifestHash : String)
    (registered : registeredManifest digest earlier payload = .ok (worker, manifestHash)) :
    ∃ other : ValidWorker library,
      registeredManifest digest later payload = .ok (other, manifestHash) ∧
        other.1.undated = worker.1.undated := by
  simp only [registeredManifest, Store.bind_ok_iff, validatedOr_ok_iff, pure, Except.pure,
    Except.ok.injEq, Prod.mk.injEq] at registered ⊢
  obtain ⟨workerId, here, _, read, rfl, rfl⟩ := registered
  obtain ⟨other, again, same⟩ := CapacityTable.readWorker_alike earlier later _ _ read
  exact ⟨other, ⟨workerId, here, other, again, rfl, rfl⟩, same⟩

/-- A request that would succeed would succeed at any other time. -/
theorem admissible_again (capacity : CapacityPlane) (sound : Sound runtime config library capacity)
    (request again : RegistrationRequest library) (same : again.payload = request.payload)
    (succeeds : Admissible digest runtime config request ∧ ∃ registered,
      registeredManifest digest request.validatedAt request.payload = .ok registered) :
    Admissible digest runtime config again ∧ ∃ registered,
      registeredManifest digest again.validatedAt again.payload = .ok registered := by
  obtain ⟨admissible, ⟨worker, manifestHash⟩, registered⟩ := succeeds
  obtain ⟨other, registered_again, alike⟩ := registeredManifest_alike digest request.validatedAt
    again.validatedAt request.payload worker manifestHash registered
  rw [same]
  refine ⟨?_, _, registered_again⟩
  intro found foundHash registered_found backends loaded
  rw [same, registered_again, Except.ok.injEq, Prod.mk.injEq] at registered_found
  obtain ⟨rfl, -⟩ := registered_found
  obtain ⟨_, known, rebuildable⟩ := sound.2 request.clock.validatedAt
  obtain ⟨others, loaded_again, alike_backends⟩ := loadBackendManifests_alike runtime config
    request.clock.validatedAt again.clock.validatedAt known rebuildable.backends_loaded
  rw [loaded, Except.ok.injEq] at loaded_again
  subst loaded_again
  have fits := admissible worker manifestHash registered known rebuildable.backends_loaded
  have here := (CapacityTable.backends_again known backends alike_backends).2.2
    worker.1.undated.routed fits
  rw [← alike] at here
  exact here

/-- The state after some requests. -/
def afterRequests (requests : List (RegistrationRequest library)) (initial : CapacityPlane) :
    CapacityPlane :=
  requests.foldl (fun capacity request =>
    (registerWorker digest runtime config request capacity).2) initial

/-- Admissible requests leave a sound state sound. -/
theorem afterRequests_sound (requests : List (RegistrationRequest library))
    (admissible : ∀ request ∈ requests, Admissible digest runtime config request)
    (initial : CapacityPlane) (sound : Sound runtime config library initial) :
    Sound runtime config library (afterRequests digest runtime config requests initial) := by
  induction requests generalizing initial with
  | nil => exact sound
  | cons request rest inductionHypothesis =>
    obtain ⟨now_admissible, later_admissible⟩ := List.forall_mem_cons.mp admissible
    exact inductionHypothesis later_admissible _
      (registerWorker_sound digest runtime config request initial sound now_admissible).1

end Rebuilding

end Registrations

open Registrations

/-- While every request is refused before it is stored or registers a worker that fits, a failed
request changes nothing, the control plane can start, and a request that would have succeeded at
first still does. -/
theorem registrations_isolated {library : CapacityLibrary} (digest : Digest)
    (runtime : PythonRuntime) (config : ConfigDocuments) (initial : CapacityPlane)
    (filed : Filed library initial) (clock : RebuildClock library)
    (rebuilds : ∃ result, rebuildCapacityProjectionFromConfigAndDb digest runtime config clock
      initial = .ok result)
    (requests : List (RegistrationRequest library))
    (admissible : ∀ request ∈ requests, Admissible digest runtime config request) :
    let reached := afterRequests digest runtime config requests initial
    (∀ later : RebuildClock library, ∃ result,
      rebuildCapacityProjectionFromConfigAndDb digest runtime config later reached = .ok result) ∧
    (∀ request : RegistrationRequest library, Admissible digest runtime config request →
      ∀ raised, (registerWorker digest runtime config request reached).1 = .error raised →
        (registerWorker digest runtime config request reached).2 = reached) ∧
    ∀ request again : RegistrationRequest library, again.payload = request.payload →
      (∃ answer, (registerWorker digest runtime config request initial).1 = .ok answer) →
        ∃ answer, (registerWorker digest runtime config again reached).1 = .ok answer := by
  obtain ⟨configured, backends, rebuildable⟩ :=
    (rebuild_isOk_iff digest runtime config clock initial filed).mp rebuilds
  have sound : Sound runtime config library initial :=
    ⟨filed, fun now => rebuildable.at_other_time runtime config clock.validatedAt now _ _ _⟩
  have sound_reached := afterRequests_sound digest runtime config requests admissible initial sound
  refine ⟨fun later => ?_, fun request fits raised failed => ?_,
    fun request again same succeeds => ?_⟩
  · exact (rebuild_isOk_iff digest runtime config later _ sound_reached.1).mpr
      (sound_reached.2 later.validatedAt)
  · exact (registerWorker_sound digest runtime config request _ sound_reached fits).2 raised failed
  · exact (registerWorker_isOk_iff digest runtime config again _ sound_reached).mpr
      (admissible_again digest runtime config initial sound request again same
        ((registerWorker_isOk_iff digest runtime config request initial sound).mp succeeds))

namespace Registrations

/-! ## A small configuration -/

/-- The entry of a local tool. -/
def toolEntry : Json := .obj [("backend_class", .str "local_tool"),
  ("backend_id", .str "backend:url_check:v0"),
  ("capacity_node_id", .str "capnode:tool:url_check:v0"),
  ("execution_location", .str "local_machine"), ("manifest_hash", .str "backend_url_check_v0")]

/-- A configuration of one local tool. -/
def toolConfig : ConfigDocuments where
  backendPolicy := []
  backendRegistry := [("backend_registry", .obj [("backends", .arr [toolEntry])])]
  capacityRegistry := []
  runtime := []
  pricing := []
  written := by decide +kernel

/-- A runtime for plain texts. -/
def asciiRuntime : PythonRuntime where
  alphanumeric := fun _ => false
  digit := fun _ => false
  repr := fun _ => ""
  integerOf := fun _ => none

/-- The time of the requests. -/
def noon : RebuildClock CapacityTable.plainLibrary := CapacityTable.clockAt "2026-01-01T12:00:00Z"

/-- A worker asks to be registered with a backend. -/
def namingRequest (workerId backendId : String) : RegistrationRequest CapacityTable.plainLibrary where
  payload := [("worker_id", .str workerId), ("backend_ids", .texts [backendId])]
  validatedAt := noon.validatedAt
  writtenAt := "2026-01-01T12:00:00Z"
  clock := noon

/-- A control plane that no worker has registered with. -/
def unregistered : CapacityPlane where
  plane := { Scenario.plane with workerManifests := .empty }
  capacityNodes := .empty

/-- The tool is loaded wherever it is the only backend, executes where it must, and may be
executed by workers for tools. -/
theorem toolConfig_loaded : ∃ tool : ValidBackend CapacityTable.plainLibrary,
    (∀ config : ConfigDocuments, config.backendRegistry = toolConfig.backendRegistry →
      Bootstrap.loadBackendManifests noon.validatedAt config asciiRuntime = .ok [tool]) ∧
      Located tool.1 ∧ Projectable tool.1 ∧ tool.1.backendId = "backend:url_check:v0" ∧
      tool.1.backendClass = .localTool ∧ tool.1.capacityNodeId = "capnode:tool:url_check:v0" := by
  obtain ⟨document, made⟩ : ∃ document, Bootstrap.backendDocument asciiRuntime toolEntry =
    .ok document := ⟨_, rfl⟩
  have accepted : ((Bootstrap.backendDocument asciiRuntime toolEntry).toOption.bind
      (BackendManifest.modelValidate (CapacityTable.plainLibrary.at noon.validatedAt.1))).any
        (fun tool => decide (Located tool ∧ Projectable tool ∧
          tool.backendId = "backend:url_check:v0" ∧ tool.backendClass = .localTool ∧
          tool.capacityNodeId = "capnode:tool:url_check:v0")) = true := by
    decide +kernel
  rw [made, Except.toOption, Option.bind_some, Option.any_eq_true_iff_get] at accepted
  obtain ⟨known, here⟩ := accepted
  have validated := Option.some_get known
  have written := Bootstrap.backendDocument_plain asciiRuntime toolEntry (by decide +kernel) document
    made
  refine ⟨⟨_, BackendManifest.valid_of_validated CapacityTable.plainLibrary noon.validatedAt.1
    noon.validatedAt.2 document written _ validated.symm⟩, fun config same =>
    (loadBackendManifests_ok_iff asciiRuntime config noon.validatedAt _).mpr
      ⟨[toolEntry], by rw [same]; rfl, .cons ⟨document, made, validated.symm⟩ .nil⟩,
    of_decide_eq_true here⟩

/-- A request registers what the document of its manifest validates as. -/
theorem registeredManifest_of_accepted (workerId backendId : String)
    (accepted : (CapacityWorkerManifest.modelValidate
        (CapacityTable.plainLibrary.at noon.validatedAt.1)
        (registeredDocument CapacityTable.framed (.str workerId)
          (namingRequest workerId backendId).payload)).any
      (fun worker => decide (worker.workerId = workerId ∧ worker.backendIds = [backendId] ∧
        worker.backendClasses = [.localTool])) = true) :
    ∃ (worker : ValidWorker CapacityTable.plainLibrary) (manifestHash : String),
      registeredManifest CapacityTable.framed noon.validatedAt
        (namingRequest workerId backendId).payload = .ok (worker, manifestHash) ∧
      worker.1.workerId = workerId ∧ worker.1.backendIds = [backendId] ∧
      worker.1.backendClasses = [.localTool] := by
  rw [Option.any_eq_true_iff_get] at accepted
  obtain ⟨known, here⟩ := accepted
  have validated := (Option.some_get known).symm
  have read := (readWorker_iff CapacityTable.plainLibrary noon.validatedAt _
    ⟨_, CapacityWorkerManifest.valid_of_validated CapacityTable.plainLibrary noon.validatedAt.1
      noon.validatedAt.2 _ _ validated⟩).mpr validated
  obtain ⟨manifestHash, registered⟩ := registeredManifest_of_read CapacityTable.framed
    noon.validatedAt (namingRequest workerId backendId).payload (.str workerId) rfl _ read
  exact ⟨_, manifestHash, registered, of_decide_eq_true here⟩

/-- The worker that names the tool registers it. -/
theorem tool_registered : ∃ (worker : ValidWorker CapacityTable.plainLibrary) (manifestHash : String),
    registeredManifest CapacityTable.framed noon.validatedAt
      (namingRequest "wrk_win_01" "backend:url_check:v0").payload = .ok (worker, manifestHash) ∧
    worker.1.workerId = "wrk_win_01" ∧ worker.1.backendIds = ["backend:url_check:v0"] ∧
    worker.1.backendClasses = [.localTool] :=
  registeredManifest_of_accepted "wrk_win_01" "backend:url_check:v0" (by decide +kernel)

/-- The worker that names an unknown backend registers it as well. -/
theorem unknown_registered :
    ∃ (worker : ValidWorker CapacityTable.plainLibrary) (manifestHash : String),
      registeredManifest CapacityTable.framed noon.validatedAt
        (namingRequest "wrk_win_02" "backend:unknown:v0").payload = .ok (worker, manifestHash) ∧
      worker.1.workerId = "wrk_win_02" ∧ worker.1.backendIds = ["backend:unknown:v0"] ∧
      worker.1.backendClasses = [.localTool] :=
  registeredManifest_of_accepted "wrk_win_02" "backend:unknown:v0" (by decide +kernel)

/-- A worker that names a backend of the class it lists may execute it. -/
theorem fits_tool (tool : BackendManifest) (toolClass : tool.backendClass = .localTool)
    (worker : CapacityWorkerManifest) (backendIds : worker.backendIds = [tool.backendId])
    (backendClasses : worker.backendClasses = [.localTool]) : Fits [tool] worker.routed := by
  right
  intro backendId named
  have same : backendId = tool.backendId := by
    change backendId ∈ worker.backendIds at named
    rwa [backendIds, List.mem_singleton] at named
  refine ⟨tool, ?_, ?_, ?_⟩
  · rw [same, backendsById_find?]
    simp
  · change tool.backendClass ∈ worker.backendClasses
    rw [toolClass, backendClasses]
    exact List.mem_singleton_self _
  · rw [toolClass]
    rfl

/-- A worker that names another backend than the tool does not fit. -/
theorem misfit_tool (tool : BackendManifest) (worker : CapacityWorkerManifest) (backendId : String)
    (backendIds : worker.backendIds = [backendId]) (other : tool.backendId ≠ backendId) :
    ¬ Fits [tool] worker.routed := by
  rintro (none | each)
  · cases none
  · obtain ⟨backend, found, -⟩ := each backendId
      (show backendId ∈ worker.backendIds by rw [backendIds]; exact List.mem_singleton_self _)
    rw [backendsById_find?] at found
    simp [other] at found

/-- Before any registration the nodes can be rebuilt at any time. -/
theorem unregistered_sound :
    Sound asciiRuntime toolConfig CapacityTable.plainLibrary unregistered := by
  obtain ⟨tool, loaded, located, projectable, -, -⟩ := toolConfig_loaded
  have rebuildable : Rebuildable asciiRuntime toolConfig noon.validatedAt unregistered [] [tool] :=
    { workers_loaded := rfl
      backends_loaded := loaded toolConfig rfl
      readable := fun _ _ found => nomatch found
      sound := List.forall_mem_singleton.mpr ⟨located, projectable⟩
      fits := fun _ _ counts => nomatch counts }
  refine ⟨?_, fun now => rebuildable.at_other_time asciiRuntime toolConfig noon.validatedAt now _ _ _⟩
  intro _ _ _ _ found
  cases found

/-- A request for the tool by the first worker is admissible. -/
theorem tool_admissible : Admissible CapacityTable.framed asciiRuntime toolConfig
    (namingRequest "wrk_win_01" "backend:url_check:v0") := by
  obtain ⟨tool, loaded, -, -, backendId, backendClass, -⟩ := toolConfig_loaded
  obtain ⟨known, manifestHash, registered, -, backendIds, backendClasses⟩ := tool_registered
  intro worker otherHash here backends loaded_again
  have same_worker := registered.symm.trans here
  have same_backends : [tool] = backends := Except.ok.inj ((loaded toolConfig rfl).symm.trans loaded_again)
  rw [Except.ok.injEq, Prod.mk.injEq] at same_worker
  rw [← same_backends, ← same_worker.1]
  exact fits_tool tool.1 backendClass known.1 (by rw [backendIds, backendId]) backendClasses

/-- A worker asks to be registered with a health that no worker can have. -/
def ailingRequest (workerId : String) : RegistrationRequest CapacityTable.plainLibrary :=
  { namingRequest workerId "backend:url_check:v0" with
    payload := [("worker_id", .str workerId), ("health_status", .str "broken")] }

/-- Its manifest is not valid. -/
theorem ailing_unregistered (worker : ValidWorker CapacityTable.plainLibrary)
    (manifestHash : String) : registeredManifest CapacityTable.framed noon.validatedAt
      (ailingRequest "wrk_win_02").payload ≠ .ok (worker, manifestHash) := by
  intro registered
  simp only [registeredManifest, Store.bind_ok_iff, validatedOr_ok_iff, pure, Except.pure,
    Except.ok.injEq, Prod.mk.injEq] at registered
  obtain ⟨workerId, here, read, validated, -, -⟩ := registered
  obtain rfl : Json.str "wrk_win_02" = workerId := Except.ok.inj here
  have accepted := (readWorker_iff CapacityTable.plainLibrary noon.validatedAt _ _).mp validated
  have refused : (CapacityWorkerManifest.modelValidate
      (CapacityTable.plainLibrary.at noon.validatedAt.1) (registeredDocument CapacityTable.framed
        (.str "wrk_win_02") (ailingRequest "wrk_win_02").payload)).isNone = true := by
    decide +kernel
  rw [registeredDocument, accepted] at refused
  cases refused

/-- It is refused before it is stored, and nothing changes. -/
theorem ailing_refused (capacity : CapacityPlane) :
    Admissible CapacityTable.framed asciiRuntime toolConfig (ailingRequest "wrk_win_02") ∧
    ∃ raised, registerWorker CapacityTable.framed asciiRuntime toolConfig
      (ailingRequest "wrk_win_02") capacity = (.error raised, capacity) := by
  constructor
  · intro worker manifestHash registered
    exact absurd registered (ailing_unregistered worker manifestHash)
  · rcases registerWorker_cases CapacityTable.framed asciiRuntime toolConfig
      (ailingRequest "wrk_win_02") capacity with
      ⟨raised, -, here⟩ | ⟨worker, manifestHash, registered, -⟩
    · exact ⟨raised, here⟩
    · exact absurd registered (ailing_unregistered worker manifestHash)

end Registrations

/-- After a request of another worker was refused and the worker of the tool has registered, the
control plane can start, the other worker is refused again without a trace, and the worker of the
tool can register again. -/
theorem registrations_isolated_tool :
    let requests := [ailingRequest "wrk_win_02", namingRequest "wrk_win_01" "backend:url_check:v0"]
    let reached := afterRequests CapacityTable.framed asciiRuntime toolConfig requests unregistered
    (∃ result, rebuildCapacityProjectionFromConfigAndDb CapacityTable.framed asciiRuntime toolConfig
      noon reached = .ok result) ∧
    (∃ raised, (registerWorker CapacityTable.framed asciiRuntime toolConfig
      (ailingRequest "wrk_win_02") reached).1 = .error raised) ∧
    (registerWorker CapacityTable.framed asciiRuntime toolConfig
      (ailingRequest "wrk_win_02") reached).2 = reached ∧
    ∃ answer, (registerWorker CapacityTable.framed asciiRuntime toolConfig
      (namingRequest "wrk_win_01" "backend:url_check:v0") reached).1 = .ok answer := by
  intro requests reached
  have sound := unregistered_sound
  obtain ⟨worker, manifestHash, registered, -⟩ := tool_registered
  have ailing := (ailing_refused unregistered).1
  obtain ⟨starts, unchanged, succeeds⟩ := registrations_isolated CapacityTable.framed asciiRuntime
    toolConfig unregistered sound.1 noon ((rebuild_isOk_iff CapacityTable.framed asciiRuntime
      toolConfig noon _ sound.1).mpr (sound.2 noon.validatedAt)) requests
    (List.forall_mem_cons.mpr ⟨ailing, List.forall_mem_singleton.mpr tool_admissible⟩)
  obtain ⟨raised, refused⟩ := (ailing_refused reached).2
  refine ⟨starts noon, ⟨raised, by rw [refused]⟩, unchanged _ ailing raised (by rw [refused]), ?_⟩
  exact succeeds _ _ rfl ((registerWorker_isOk_iff CapacityTable.framed asciiRuntime
    toolConfig _ unregistered sound).mpr ⟨tool_admissible, _, registered⟩)

/-- A failed request leaves its manifest stored. From then on the control plane cannot start and
a worker that could register at first no longer can. -/
theorem registrations_poisoned :
    let failing := namingRequest "wrk_win_02" "backend:unknown:v0"
    let request := namingRequest "wrk_win_01" "backend:url_check:v0"
    let reached := (registerWorker CapacityTable.framed asciiRuntime toolConfig failing
      unregistered).2
    (∃ result, rebuildCapacityProjectionFromConfigAndDb CapacityTable.framed asciiRuntime toolConfig
      noon unregistered = .ok result) ∧
    (∃ answer, (registerWorker CapacityTable.framed asciiRuntime toolConfig request
      unregistered).1 = .ok answer) ∧
    (∃ raised, (registerWorker CapacityTable.framed asciiRuntime toolConfig failing
      unregistered).1 = .error raised) ∧
    reached.plane.workerManifests.find? "wrk_win_02" ≠
      unregistered.plane.workerManifests.find? "wrk_win_02" ∧
    (∃ raised, rebuildCapacityProjectionFromConfigAndDb CapacityTable.framed asciiRuntime toolConfig
      noon reached = .error raised) ∧
    ∃ raised, (registerWorker CapacityTable.framed asciiRuntime toolConfig request
      reached).1 = .error raised := by
  intro failing request reached
  have sound := unregistered_sound
  obtain ⟨tool, loaded, -, -, backendId, -⟩ := toolConfig_loaded
  obtain ⟨known, knownHash, registered, knownId, -⟩ := tool_registered
  obtain ⟨worker, manifestHash, stored_worker, workerId, backendIds, -⟩ := unknown_registered
  have misfit : ∀ backends : List (ValidBackend CapacityTable.plainLibrary),
      Bootstrap.loadBackendManifests noon.validatedAt toolConfig asciiRuntime = .ok backends →
      ¬ Fits (backends.map (·.1)) worker.1.routed := by
    intro backends loaded_again
    rw [loaded toolConfig rfl, Except.ok.injEq] at loaded_again
    rw [← loaded_again]
    exact misfit_tool tool.1 worker.1 _ backendIds (by rw [backendId]; decide)
  obtain ⟨row, read, finds⟩ := stored_find unregistered worker manifestHash failing.writtenAt
  have filed := stored_filed unregistered sound.1 worker manifestHash failing.writtenAt
  have found := (finds worker.1.workerId).trans (if_pos rfl)
  have failed : ∃ raised, registerWorker CapacityTable.framed asciiRuntime toolConfig failing
      unregistered = (.error raised, stored unregistered worker manifestHash failing.writtenAt) := by
    obtain ⟨raised, refused⟩ := rebuild_of_misfit CapacityTable.framed asciiRuntime toolConfig noon _
      filed _ row worker found (read _) misfit
    rcases registerWorker_cases CapacityTable.framed asciiRuntime toolConfig failing unregistered with
      ⟨_, unstored, -⟩ | ⟨other, otherHash, here, ⟨again, -, returned⟩ | succeeded⟩
    · cases unstored.symm.trans stored_worker
    · cases stored_worker.symm.trans here
      exact ⟨again, returned⟩
    · obtain ⟨count, rebuilt, answer, returned, -⟩ := succeeded
      cases stored_worker.symm.trans here
      cases refused.symm.trans returned
  obtain ⟨raised, returned⟩ := failed
  have after : reached = stored unregistered worker manifestHash failing.writtenAt :=
    congrArg Prod.snd returned
  refine ⟨(rebuild_isOk_iff CapacityTable.framed asciiRuntime toolConfig noon _ sound.1).mpr
      (sound.2 noon.validatedAt),
    (registerWorker_isOk_iff CapacityTable.framed asciiRuntime toolConfig request unregistered
      sound).mpr ⟨tool_admissible, _, registered⟩, ⟨raised, by rw [returned]⟩, ?_, ?_, ?_⟩
  · rw [after, ← workerId, found]
    exact Option.some_ne_none row
  · rw [after]
    exact rebuild_of_misfit CapacityTable.framed asciiRuntime toolConfig noon _ filed _ row worker
      found (read _) misfit
  · rw [after]
    refine registerWorker_of_misfit CapacityTable.framed asciiRuntime toolConfig request _ filed _ row
      worker found (read _) misfit (fun other otherHash here => ?_)
    cases registered.symm.trans here
    rw [knownId, workerId]
    decide

end TokenBank
