import TokenBank.Guarantees.Adapters
import TokenBank.Worker.Executor

/-!
# What a worker executes

Whatever document a worker is given as its assignment, it runs no gateway to a model provider, and
the envelope it returns costs nothing and goes by the ids of the document, without the blanks around
them.
-/

namespace TokenBank

namespace WorkerExecutions

open LocalToolExecutor

/-! ## Envelopes of adapters -/

/-- An envelope was built from a context, with one record of usage that costs nothing. -/
def BuiltFree (library : ModelLibrary) (sha256 : String → String)
    (context : BackendExecutionContext) (envelope : WorkUnitResultEnvelope) : Prop :=
  ∃ output usage startedAt completedAt status errors redactedLogs providerId modelId,
    usage.estimatedCostMicros = 0 ∧ usage.actualCostMicros = 0 ∧
      Adapter.buildResultEnvelope library sha256 context output [usage] startedAt completedAt status
        errors redactedLogs providerId modelId = .ok envelope

/-- A record of usage costs what it was made with. -/
theorem usage_costs {sha256 : String → String} {recordedAt workUnitId attemptId backendId : String}
    {costSource : CostSource} {costConfidence : CostConfidence}
    {estimated actual inputUnits outputUnits : Nat} {usage : UsageRecord}
    (made : Backends.makeUsageRecord sha256 recordedAt workUnitId attemptId backendId costSource
      costConfidence estimated actual inputUnits outputUnits = .ok usage) :
    usage.estimatedCostMicros = estimated ∧ usage.actualCostMicros = actual := by
  simp only [Backends.makeUsageRecord, Store.bind_ok_iff] at made
  obtain ⟨_, -, _, -, _, -, _, -, returned⟩ := made
  obtain rfl := Except.ok.inj returned
  exact ⟨rfl, rfl⟩

section Adapters

variable {platform : BackendPlatform} {clock : ExecutionClock} {context : ExecutionContext}
  {envelope : WorkUnitResultEnvelope}

/-- A build with a record of usage that was made for nothing. -/
theorem builtFree {recordedAt workUnitId attemptId backendId : String} {costSource : CostSource}
    {costConfidence : CostConfidence} {inputUnits outputUnits : Nat} {usage : UsageRecord}
    (made : Backends.makeUsageRecord platform.sha256 recordedAt workUnitId attemptId backendId
      costSource costConfidence 0 0 inputUnits outputUnits = .ok usage)
    {output : JsonObject} {startedAt completedAt : Datetime} {status : String}
    {errors : List BackendError} {redactedLogs : List String} {providerId modelId : Option String}
    (built : Adapter.buildResultEnvelope platform.library platform.sha256
      context.toBackendExecutionContext output [usage] startedAt completedAt status errors
      redactedLogs providerId modelId = .ok envelope) :
    BuiltFree platform.library platform.sha256 context.toBackendExecutionContext envelope :=
  ⟨output, usage, startedAt, completedAt, status, errors, redactedLogs, providerId, modelId,
    (usage_costs made).1, (usage_costs made).2, built⟩

/-- The local model builds its envelopes for nothing. -/
theorem localModel_builtFree (executed : LocalModelAdapter.execute platform clock context =
    .ok envelope) :
    BuiltFree platform.library platform.sha256 context.toBackendExecutionContext envelope := by
  simp only [LocalModelAdapter.execute, Store.bind_ok_iff] at executed
  obtain ⟨usage, made, error, -, built⟩ := executed
  exact builtFree made built

/-- A class that is not supported gets an envelope for nothing. -/
theorem unsupported_builtFree (executed : UnsupportedBackendAdapter.execute platform clock context =
    .ok envelope) :
    BuiltFree platform.library platform.sha256 context.toBackendExecutionContext envelope := by
  simp only [UnsupportedBackendAdapter.execute, Store.bind_ok_iff] at executed
  obtain ⟨error, -, usage, made, built⟩ := executed
  exact builtFree made built

/-- The local script builds its envelopes for nothing. -/
theorem localScript_builtFree (executed : LocalScriptAdapter.execute platform clock context =
    .ok envelope) :
    BuiltFree platform.library platform.sha256 context.toBackendExecutionContext envelope := by
  simp only [LocalScriptAdapter.execute, Store.bind_ok_iff] at executed
  obtain ⟨usage, made, denied, -, later⟩ := executed
  split at later
  · obtain ⟨error, -, built⟩ := (Store.bind_ok_iff _ _ _).mp later
    exact builtFree made built
  · split at later
    · exact builtFree made later
    · obtain ⟨error, -, built⟩ := (Store.bind_ok_iff _ _ _).mp later
      exact builtFree made built

/-- The local tool builds its envelopes for nothing. -/
theorem localTool_builtFree {web : WebPlatform} (executed : LocalToolAdapter.execute web clock
    context = .ok envelope) :
    BuiltFree web.library web.sha256 context.toBackendExecutionContext envelope := by
  simp only [LocalToolAdapter.execute, Store.bind_ok_iff] at executed
  obtain ⟨usage, made, checkable, -, later⟩ := executed
  split at later
  · simp only [Store.bind_ok_iff] at later
    obtain ⟨normalized, -, output, -, built⟩ := later
    exact builtFree made built
  · obtain ⟨error, -, built⟩ := (Store.bind_ok_iff _ _ _).mp later
    exact builtFree made built

/-- The browser builds its envelopes for nothing. -/
theorem browser_builtFree {browser : BrowserPlatform}
    (executed : BrowserFetchAdapter.execute browser clock context = .ok envelope) :
    BuiltFree browser.library browser.sha256 context.toBackendExecutionContext envelope := by
  simp only [BrowserFetchAdapter.execute, Store.bind_ok_iff] at executed
  obtain ⟨usage, made, denied, -, later⟩ := executed
  split at later
  · exact builtFree made later
  · simp only [Store.bind_ok_iff] at later
    obtain ⟨normalized, -, extraction, -, built⟩ := later
    exact builtFree made built

end Adapters

/-! ## Executions -/

/-- A backend that may be run has a class that is none of the forbidden ones, and an id with no part
that is one. -/
theorem allowed_backend {backendId backendClass : String}
    (allowed : isForbiddenBackend backendId backendClass = false) :
    backendClass ∉ forbiddenBackendClasses ∧
      ∀ part ∈ backendId.toList.splitOn ':', String.ofList part ∉ forbiddenBackendClasses := by
  simp only [isForbiddenBackend, List.any_cons, List.any_map, Bool.or_eq_false_iff,
    decide_eq_false_iff_not, List.any_eq_false, Function.comp_apply, decide_eq_true_eq] at allowed
  exact allowed

/-- The adapter of a class that may be run builds its envelopes for nothing. -/
theorem adapter_builtFree {platform : AdaptersPlatform} {clock : ExecutionClock}
    {context : ExecutionContext} {backendClass : String} {envelope : WorkUnitResultEnvelope}
    (allowed : backendClass ∉ forbiddenBackendClasses)
    (executed : Adapter.adapterForBackendClass platform backendClass clock context = .ok envelope) :
    BuiltFree platform.library platform.sha256 context.toBackendExecutionContext envelope := by
  have unproxied : backendClass ≠ "api_model_gateway" := by
    rintro rfl
    exact allowed (by decide)
  have unbrokered : backendClass ≠ "primary_model_gateway" := by
    rintro rfl
    exact allowed (by decide)
  rw [Adapter.adapterForBackendClass, if_neg unproxied] at executed
  split_ifs at executed
  · -- The platform is read off the execution here, not off the goal.
    have free := browser_builtFree executed
    exact free
  · exact localModel_builtFree executed
  · exact localScript_builtFree executed
  · exact localTool_builtFree executed
  · exact unsupported_builtFree executed

/-- An envelope that was built for nothing costs nothing, and goes by the ids and the class of its
context. -/
theorem builtFree_members {library : ModelLibrary} {sha256 : String → String}
    {context : BackendExecutionContext} {envelope : WorkUnitResultEnvelope}
    (built : BuiltFree library sha256 context envelope) :
    envelope.costEstimateMicros = 0 ∧ envelope.actualCostMicros = 0 ∧
      envelope.backendClass = Adapter.backendClassOrNone context.backendClass ∧
      envelope.backendId = some (BaseModel.stripped context.backendId) ∧
      envelope.workUnitId = BaseModel.stripped context.workUnitId ∧
      envelope.attemptId = BaseModel.stripped context.attemptId ∧
      envelope.assignmentId = BaseModel.stripped context.assignmentId ∧
      envelope.workerId = context.workerId.map BaseModel.stripped := by
  obtain ⟨output, usage, startedAt, completedAt, status, errors, redactedLogs, providerId, modelId,
    estimated, actual, built⟩ := built
  unfold Adapter.buildResultEnvelope at built
  dsimp only at built
  split at built
  · cases built
  · split at built
    · cases built
    · obtain rfl := Except.ok.inj built
      simp [estimated, actual]

/-- A class that is not forbidden is not the class of a gateway. -/
theorem backendClassOrNone_allowed {backendClass : String}
    (allowed : backendClass ∉ forbiddenBackendClasses) :
    Adapter.backendClassOrNone backendClass ≠ some .apiModelGateway ∧
      Adapter.backendClassOrNone backendClass ≠ some .primaryModelGateway := by
  have named (found : BackendClass) (same : Adapter.backendClassOrNone backendClass = some found) :
      found.text = backendClass := by
    rw [Adapter.backendClassOrNone] at same
    split_ifs at same
    simpa using List.find?_some same
  constructor
  · intro same
    exact allowed (named _ same ▸ by decide)
  · intro same
    exact allowed (named _ same ▸ by decide)

/-- The context of an execution has the ids of the document. -/
theorem executionContext_ids {runtime : PythonRuntime}
    {assignment body effectiveConstraints : JsonObject} {backendId backendClass : String}
    {context : ExecutionContext} (given : executionContext runtime assignment body
      effectiveConstraints backendId backendClass = .ok context) :
    (∀ key ∈ ["work_unit_id", "attempt_id", "assignment_id", "worker_id"],
      Json.has assignment key = true) ∧
    context.backendId = backendId ∧
    context.backendClass = (if backendClass = "" then "local_tool" else backendClass) ∧
    context.workUnitId = runtime.str (Json.get assignment "work_unit_id") ∧
    context.attemptId = runtime.str (Json.get assignment "attempt_id") ∧
    context.assignmentId = runtime.str (Json.get assignment "assignment_id") ∧
    context.workerId = some (runtime.str (Json.get assignment "worker_id")) := by
  have item (key : String) (value : Json) : Json.item assignment key = .ok value ↔
      Json.has assignment key = true ∧ Json.get assignment key = value := by
    rw [Json.item]
    split_ifs with present
    · simp [present]
    · simp [present]
  simp only [executionContext, Store.bind_ok_iff, item] at given
  obtain ⟨_, ⟨unit, rfl⟩, _, ⟨attempt, rfl⟩, _, ⟨assigned, rfl⟩, _, ⟨worker, rfl⟩, returned⟩ := given
  obtain rfl := Except.ok.inj returned
  refine ⟨?_, rfl, rfl, rfl, rfl, rfl, rfl⟩
  simp [unit, attempt, assigned, worker]

/-- A worker that executes a document runs no gateway to a model provider, and no backend whose id
names one. The envelope costs nothing, and goes by the ids of the document without the blanks around
them. -/
theorem worker_envelope (platform : AdaptersPlatform) (clock : ExecutionClock)
    (assignment : JsonObject) (envelope : WorkUnitResultEnvelope)
    (executed : executeEnvelope platform clock assignment = .ok envelope) :
    envelope.backendClass ≠ some .apiModelGateway ∧
    envelope.backendClass ≠ some .primaryModelGateway ∧
    (∀ part ∈ (backendIdOf platform.runtime assignment).toList.splitOn ':',
      String.ofList part ∉ forbiddenBackendClasses) ∧
    envelope.costEstimateMicros = 0 ∧ envelope.actualCostMicros = 0 ∧
    (∀ key ∈ ["work_unit_id", "attempt_id", "assignment_id", "worker_id"],
      Json.has assignment key = true) ∧
    envelope.workUnitId =
      BaseModel.stripped (platform.runtime.str (Json.get assignment "work_unit_id")) ∧
    envelope.attemptId =
      BaseModel.stripped (platform.runtime.str (Json.get assignment "attempt_id")) ∧
    envelope.assignmentId =
      BaseModel.stripped (platform.runtime.str (Json.get assignment "assignment_id")) ∧
    envelope.workerId =
      some (BaseModel.stripped (platform.runtime.str (Json.get assignment "worker_id"))) := by
  simp only [executeEnvelope, Store.bind_ok_iff, Store.ensure_ok_iff] at executed
  obtain ⟨-, allowed, context, given, executed⟩ := executed
  obtain ⟨unproxied, parts⟩ := allowed_backend allowed
  obtain ⟨present, -, ranClass, unit, attempt, assigned, worker⟩ := executionContext_ids given
  obtain ⟨estimated, actual, sameClass, -, sameUnit, sameAttempt, sameAssigned, sameWorker⟩ :=
    builtFree_members (adapter_builtFree unproxied executed)
  have local_class : context.backendClass ∉ forbiddenBackendClasses := by
    rw [ranClass]
    split_ifs
    · decide
    · exact unproxied
  have ungated := backendClassOrNone_allowed local_class
  rw [← sameClass] at ungated
  rw [sameUnit, sameAttempt, sameAssigned, sameWorker, unit, attempt, assigned, worker]
  exact ⟨ungated.1, ungated.2, parts, estimated, actual, present, rfl, rfl, rfl, rfl⟩

/-- A local model returns an envelope if the ids of its context are not blank. -/
theorem localModel_returns (platform : BackendPlatform) (clock : ExecutionClock)
    (context : ExecutionContext) (identified : context.Identified) :
    Backends.Returns (LocalModelAdapter.execute platform clock context) := by
  have settled := Backends.execution_returns_iff platform context clock.recordedAt
    .zeroInternalPhase0 .low 0 0
    (fun usage => Backends.normalizeBackendError platform.library clock.occurredAt
      "local_model.not_configured" "local_model backend scaffold is not configured in WP9" false
      true >>= fun error => Adapter.buildResultEnvelope platform.library platform.sha256
        context.toBackendExecutionContext
        [("ok", .bool false), ("reason", .str "local_model_not_configured")] [usage]
        clock.startedAt clock.completedAt "failed" [error]) True (fun usage => by
      rw [and_true]
      apply Backends.returns_bind_settled
      · exact Backends.normalizeBackendError_returns _ _ _ _ _ _ _ (by decide) (by decide) rfl
      · intro error
        apply Backends.envelope_returns_iff platform context _ [usage] _ _ .failed [error]
        rw [Backends.hasForbiddenKey_adapter _ ["ok", "reason"] rfl (by decide)]
        rfl)
  exact settled.mpr ⟨identified, trivial⟩

/-- The adapters of a sample worker, whose parser finds nothing in a page. -/
def samplePlatform : AdaptersPlatform where
  toGatewayPlatform := Backends.sampleGateway
  feed := fun _ => .ok []

/-- The document of an assignment to a local model. -/
def sampleAssignment : JsonObject :=
  [("assignment_id", .str "asg_1"), ("work_unit_id", .str "wu_1"), ("attempt_id", .str " att_1 "),
    ("worker_id", .str "wrk_1"), ("backend_id", .str "backend:small:v0"),
    ("backend_class", .str "local_model")]

/-- The sample document is executed, and its envelope goes by the id of the attempt without the
blanks around it. -/
theorem worker_envelope_sample : ∃ envelope,
    executeEnvelope samplePlatform LocalScriptAdapter.sampleClock sampleAssignment = .ok envelope ∧
      envelope.backendClass ≠ some .apiModelGateway ∧ envelope.actualCostMicros = 0 ∧
      envelope.attemptId = "att_1" := by
  obtain ⟨context, given⟩ : ∃ context, executionContext samplePlatform.runtime sampleAssignment [] []
      "backend:small:v0" "local_model" = .ok context := ⟨_, rfl⟩
  have identified : context.Identified := by
    obtain rfl := Except.ok.inj given
    decide
  obtain ⟨envelope, returned⟩ := localModel_returns samplePlatform.toBackendPlatform
    LocalScriptAdapter.sampleClock context identified
  have executed : executeEnvelope samplePlatform LocalScriptAdapter.sampleClock sampleAssignment =
      .ok envelope := by
    simp only [executeEnvelope, Store.bind_ok_iff, Store.ensure_ok_iff]
    exact ⟨(), by decide, context, given, returned⟩
  obtain ⟨unproxied, -, -, -, actual, -, -, attempt, -, -⟩ := worker_envelope samplePlatform
    LocalScriptAdapter.sampleClock sampleAssignment envelope executed
  exact ⟨envelope, executed, unproxied, actual, attempt.trans (by decide)⟩

end WorkerExecutions

end TokenBank
