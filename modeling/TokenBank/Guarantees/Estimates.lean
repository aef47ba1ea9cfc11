import TokenBank.Guarantees.Preflight
import TokenBank.Host.Endpoint

/-!
# Estimates and submissions of one request

A host may ask for an estimate of a request before it submits it. Both start from the
request in its normal form. The estimate analyzes that input as it is; the submission reads
its arguments back from it and makes an input of its own of them. The two inputs have the
same members except where the submission fills in labels or claim types that the normal
form does not have.
-/

namespace TokenBank

namespace HostAdapter

open Host (DemoTask DemoSubmission)

/-! ## The submission behind a normal form -/

/-- The submission that a normal form stands for. -/
def normalizedSubmission (members : JsonObject) : DemoTask → Except Raised DemoSubmission
  | .urlCheck => (requiredString members "url").map .urlCheck
  | .dedup =>
    match Json.get members "items" with
    | .arr items => .ok (.dedup items)
    | _ => .error (.valueError "dedup requires items as a JSON array")
  | .webpageExtraction => (requiredString members "url").map (fun url =>
      .webpageExtraction url (Json.get members "html").text? (Json.get members "text").text?
        (Json.get members "title").text?)
  | .topicClassification => do
    let text ← requiredString members "text"
    let allowedLabels ← optionalStringList members "allowed_labels"
    return .topicClassification text allowedLabels
  | .claimExtraction => do
    let text ← requiredString members "text"
    let sourceId := ((← optionalString members "source_id").getD "src_claim_1")
    let entity ← optionalString members "entity"
    let allowedClaimTypes ← optionalStringList members "allowed_claim_types"
    return .claimExtraction text sourceId entity allowedClaimTypes

/-- The input that is analyzed for a submission. -/
def analyzedInput : DemoSubmission → JsonObject
  | .topicClassification text allowedLabels =>
    ("text", .str text) :: optionalTexts "allowed_labels" allowedLabels
  | .claimExtraction text sourceId entity allowedClaimTypes =>
    [("text", .str text), ("source_id", .str sourceId),
      ("sources", .arr [.obj [("source_id", .str sourceId), ("text", .str text)]])] ++
        Host.optionalMember "entity" entity ++ optionalTexts "allowed_claim_types" allowedClaimTypes
  | submission => submission.inlineInput

/-- The submission behind a normal form has the task type of the request. -/
theorem normalizedSubmission_task (members : JsonObject) (task : DemoTask)
    (submission : DemoSubmission)
    (normalized : normalizedSubmission members task = .ok submission) : submission.task = task := by
  cases task with
  | urlCheck =>
    obtain ⟨url, -, rfl⟩ := (Store.map_ok_iff _ _ _).mp normalized
    rfl
  | dedup =>
    simp only [normalizedSubmission] at normalized
    split at normalized
    · rw [← Except.ok.inj normalized]
      rfl
    · cases normalized
  | webpageExtraction =>
    obtain ⟨url, -, rfl⟩ := (Store.map_ok_iff _ _ _).mp normalized
    rfl
  | topicClassification =>
    simp only [normalizedSubmission, Store.bind_ok_iff] at normalized
    obtain ⟨text, -, labels, -, returned⟩ := normalized
    rw [← Except.ok.inj returned]
    rfl
  | claimExtraction =>
    simp only [normalizedSubmission, Store.bind_ok_iff] at normalized
    obtain ⟨text, -, sourceId, -, entity, -, types, -, returned⟩ := normalized
    rw [← Except.ok.inj returned]
    rfl

/-- A normal form is the analyzed input of the submission behind it. -/
theorem normalizeInlineInput_eq (members : JsonObject) (task : DemoTask) :
    normalizeInlineInput members task = (normalizedSubmission members task).map analyzedInput := by
  cases task with
  | urlCheck =>
    rw [normalizeInlineInput, normalizedSubmission]
    cases requiredString members "url" <;> rfl
  | dedup =>
    rw [normalizeInlineInput, normalizedSubmission]
    cases Json.get members "items" <;> rfl
  | webpageExtraction =>
    rw [normalizeInlineInput, normalizedSubmission]
    cases requiredString members "url" with
    | error raised => rfl
    | ok url => simp [bind, Except.bind, Except.map, pure, Except.pure, analyzedInput,
        DemoSubmission.inlineInput]
  | topicClassification =>
    rw [normalizeInlineInput, normalizedSubmission]
    cases requiredString members "text" with
    | error raised => rfl
    | ok text => cases optionalStringList members "allowed_labels" <;> rfl
  | claimExtraction =>
    rw [normalizeInlineInput, normalizedSubmission]
    cases requiredString members "text" with
    | error raised => rfl
    | ok text =>
      cases optionalString members "source_id" with
      | error raised => rfl
      | ok sourceId =>
        cases optionalString members "entity" with
        | error raised => rfl
        | ok entity => cases optionalStringList members "allowed_claim_types" <;> rfl

/-- The texts of an array of texts. -/
theorem mapM_text? (texts : List String) : (texts.map Json.str).mapM Json.text? = some texts := by
  induction texts with
  | nil => rfl
  | cons text rest inductionHypothesis =>
    rw [List.map_cons, List.mapM_cons, inductionHypothesis]
    rfl

/-- The arguments of a submission are read back from the analyzed input. -/
theorem submitNormalizedRequest_analyzed (runtime : PythonRuntime) (submission : DemoSubmission) :
    submitNormalizedRequest runtime ⟨submission.task, analyzedInput submission⟩ =
      .ok submission := by
  cases submission with
  | urlCheck url => rfl
  | dedup items => rfl
  | webpageExtraction url html text title =>
    have members_read : Json.get (analyzedInput (.webpageExtraction url html text title)) "html" =
          (html.map Json.str).getD .null ∧
        Json.get (analyzedInput (.webpageExtraction url html text title)) "text" =
          (text.map Json.str).getD .null ∧
        Json.get (analyzedInput (.webpageExtraction url html text title)) "title" =
          (title.map Json.str).getD .null := by
      cases html <;> cases text <;> cases title <;>
        simp [analyzedInput, DemoSubmission.inlineInput, Host.optionalMember, Json.get]
    have texts_kept (text : Option String) : ((text.map Json.str).getD .null).text? = text := by
      cases text <;> rfl
    simp only [submitNormalizedRequest, DemoSubmission.task, members_read, texts_kept]
    rfl
  | topicClassification text allowedLabels =>
    have labels_read :
        optionalStrList (Json.get (analyzedInput (.topicClassification text allowedLabels))
          "allowed_labels") = allowedLabels := by
      cases allowedLabels with
      | none => rfl
      | some labels => exact mapM_text? labels
    simp only [submitNormalizedRequest, DemoSubmission.task, labels_read]
    rfl
  | claimExtraction text sourceId entity allowedClaimTypes =>
    have entity_read : (Json.get (analyzedInput
        (.claimExtraction text sourceId entity allowedClaimTypes)) "entity").text? = entity := by
      cases entity <;> cases allowedClaimTypes <;>
        simp [analyzedInput, Host.optionalMember, optionalTexts, Json.get, Json.text?]
    have types_read : optionalStrList (Json.get (analyzedInput
        (.claimExtraction text sourceId entity allowedClaimTypes)) "allowed_claim_types") =
          allowedClaimTypes := by
      cases entity <;> cases allowedClaimTypes with
      | none => rfl
      | some types => exact mapM_text? types
    simp only [submitNormalizedRequest, DemoSubmission.task, entity_read, types_read]
    rfl

end HostAdapter

/-! ## Analyses of one dictionary -/

namespace TaskAnalyzer

section Dictionaries

variable (fields others : JsonObject) (permuted : fields.Perm others)

include permuted

/-- A member is the same in every order of the members. -/
theorem get_perm (distinct : (fields.map Prod.fst).Nodup) (key : String) :
    Json.get fields key = Json.get others key := by
  rw [Json.get, Json.get, Ranking.find?_key_perm Prod.fst fields others permuted distinct key]

/-- The canonical text is the same in every order of the members. -/
theorem canonicalJsonDumps_perm (distinct : (fields.map Prod.fst).Nodup) :
    Canonical.canonicalJsonDumps (.obj fields) = Canonical.canonicalJsonDumps (.obj others) := by
  have dumped (members : JsonObject) : Canonical.dumpsFields members =
      members.map (fun field => (field.1, Canonical.canonicalJsonDumps field.2)) := by
    induction members with
    | nil => rfl
    | cons field rest inductionHypothesis =>
      rw [Canonical.dumpsFields, List.map_cons, inductionHypothesis]
  have texts_permuted : (Canonical.dumpsFields fields).Perm (Canonical.dumpsFields others) := by
    rw [dumped, dumped]
    exact permuted.map _
  have texts_distinct : ((Canonical.dumpsFields fields).map Prod.fst).Nodup := by
    rw [dumped, List.map_map]
    exact distinct
  have sorted := Ranking.ranked_perm Prod.fst _ _ texts_permuted texts_distinct
  unfold Ranking.ranked at sorted
  simp only [Canonical.canonicalJsonDumps, sorted]

/-- An input is as deep in every order of its members. -/
theorem jsonDepth_perm : jsonDepth (.obj fields) = jsonDepth (.obj others) := by
  have same_depth : fieldsDepth fields = fieldsDepth others := by
    induction permuted with
    | nil => rfl
    | cons field _ inductionHypothesis => rw [fieldsDepth, fieldsDepth, inductionHypothesis]
    | swap first second rest =>
      simp only [fieldsDepth]
      exact max_left_comm _ _ _
    | trans _ _ left right => exact left.trans right
  rw [jsonDepth, jsonDepth, same_depth]

/-- An input asks for a scan in every order of its members, or in none. -/
theorem workspaceScanRequested_perm :
    workspaceScanRequested (.obj fields) = workspaceScanRequested (.obj others) := by
  rw [workspaceScanRequested, workspaceScanRequested]
  induction permuted with
  | nil => rfl
  | cons field _ inductionHypothesis =>
    rw [fieldsRequestScan, fieldsRequestScan, inductionHypothesis]
  | swap first second rest =>
    simp only [fieldsRequestScan]
    exact Bool.or_left_comm _ _ _
  | trans _ _ left right => exact left.trans right

/-- As many keys and texts hint at a secret in every order of the members. -/
theorem possibleSecretCount_perm : PrivacyPreflight.possibleSecretCount (.obj fields) =
    PrivacyPreflight.possibleSecretCount (.obj others) := by
  rw [PrivacyPreflight.possibleSecretCount, PrivacyPreflight.possibleSecretCount]
  induction permuted with
  | nil => rfl
  | cons field _ inductionHypothesis =>
    rw [PrivacyPreflight.possibleSecretFields, PrivacyPreflight.possibleSecretFields,
      inductionHypothesis]
  | swap first second rest =>
    simp only [PrivacyPreflight.possibleSecretFields]
    omega
  | trans _ _ left right => exact left.trans right

/-- A privacy scan finds the same in every order of the members. -/
theorem scanPrivacy_perm (runtime : PythonRuntime) :
    PrivacyPreflight.scanPrivacy runtime (.obj fields) =
      PrivacyPreflight.scanPrivacy runtime (.obj others) := by
  have texts_permuted : (PrivacyPreflight.stringValues (.obj fields)).Perm
      (PrivacyPreflight.stringValues (.obj others)) := by
    rw [PrivacyPreflight.stringValues, PrivacyPreflight.stringValues]
    induction permuted with
    | nil => exact .refl _
    | cons field _ inductionHypothesis => exact inductionHypothesis.append_left _
    | swap first second rest =>
      simp only [PrivacyPreflight.stringFields, ← List.append_assoc]
      exact List.perm_append_comm.append_right _
    | trans _ _ left right => exact left.trans right
  have same_counts (patterns : List (String × List Text.Element)) :
      PrivacyPreflight.patternCounts runtime (PrivacyPreflight.stringValues (.obj fields)) patterns =
        PrivacyPreflight.patternCounts runtime (PrivacyPreflight.stringValues (.obj others))
          patterns := by
    apply List.map_congr_left
    intro pattern member
    rw [(texts_permuted.map (Text.count runtime.wordCharacter pattern.2)).sum_eq]
  simp only [PrivacyPreflight.scanPrivacy, same_counts,
    possibleSecretCount_perm fields others permuted]

/-- A task takes as many tokens in every order of the members of its input. -/
theorem estimateTokens_perm (distinct : (fields.map Prod.fst).Nodup) (taskType : String) :
    estimateTokens taskType fields = estimateTokens taskType others := by
  simp only [estimateTokens, estimatedOutputTokens, get_perm fields others permuted distinct,
    canonicalJsonDumps_perm fields others permuted distinct]

end Dictionaries

/-- What two reports say about a task, whatever candidates were compared for it. -/
structure SameAnalysis (report other : TaskAnalysisReport) : Prop where
  inputShape : report.inputShape = other.inputShape
  tokenEstimate : report.tokenEstimate = other.tokenEstimate
  privacyScan : report.privacyScan = other.privacyScan
  effectiveTaskLevel : report.effectiveTaskLevel = other.effectiveTaskLevel
  effectivePrivacyLevel : report.effectivePrivacyLevel = other.effectivePrivacyLevel
  preflightDecision : report.preflightDecision = other.preflightDecision

/-- Work units of one type and one level, with one dictionary as their input, are analyzed
alike. -/
theorem analyze_perm (runtime : PythonRuntime) (pricing : List JsonObject)
    (pack : LoadedRoutebookV1) (workUnit other : WorkUnit)
    (same_type : workUnit.taskType = other.taskType)
    (same_level : workUnit.taskLevel = other.taskLevel)
    (same_privacy : workUnit.privacyLevel = other.privacyLevel)
    (permuted : workUnit.inlineInput.Perm other.inlineInput)
    (distinct : (workUnit.inlineInput.map Prod.fst).Nodup) (routePlan otherPlan : Option RoutePlan)
    (report otherReport : TaskAnalysisReport)
    (analyzed : analyze runtime pricing pack workUnit routePlan = .ok report)
    (other_analyzed : analyze runtime pricing pack other otherPlan = .ok otherReport) :
    SameAnalysis report otherReport := by
  have same_tokens : estimateTokens workUnit.taskType workUnit.inlineInput =
      estimateTokens other.taskType other.inlineInput := by
    rw [estimateTokens_perm _ _ permuted distinct, same_type]
  have same_shape : inputShapeForWorkUnit workUnit = inputShapeForWorkUnit other := by
    rw [inputShapeForWorkUnit, inputShapeForWorkUnit,
      canonicalJsonDumps_perm _ _ permuted distinct, jsonDepth_perm _ _ permuted,
      workspaceScanRequested_perm _ _ permuted]
  have same_scan := scanPrivacy_perm _ _ permuted runtime
  simp only [analyze, Store.bind_ok_iff] at analyzed other_analyzed
  obtain ⟨complexity, estimated, cost, -, routebookId, -, version, -, returned⟩ := analyzed
  obtain ⟨otherComplexity, other_estimated, otherCost, -, otherRoutebookId, -, otherVersion, -,
    other_returned⟩ := other_analyzed
  have raised := complexityEstimate_difficulty _ _ _ _ _ estimated
  have other_raised := complexityEstimate_difficulty _ _ _ _ _ other_estimated
  rw [same_tokens, same_shape, same_type, other_raised] at raised
  have same_difficulty := Except.ok.inj raised
  rw [← Except.ok.inj returned, ← Except.ok.inj other_returned]
  constructor <;> simp only [same_tokens, same_shape, same_scan, same_level, same_privacy,
    same_difficulty]

end TaskAnalyzer

namespace HostAdapter

open Host (DemoTask DemoSubmission)

/-! ## Choices -/

/-- The member that gives a task type the choices it has. -/
def choicesKey : DemoTask → Option String
  | .topicClassification => some "allowed_labels"
  | .claimExtraction => some "allowed_claim_types"
  | _ => none

/-- If a task type has choices, the members of a request give it some. -/
def ChoicesGiven (members : JsonObject) (task : DemoTask) : Prop :=
  ∀ key, choicesKey task = some key → ∃ choice others, Json.get members key = .arr (choice :: others)

/-- An array gives texts exactly if one is taken from each of its items. -/
theorem optionalStringList_ok (members : JsonObject) (key : String) (given : Option (List String))
    (taken : optionalStringList members key = .ok given) :
    (∃ choice others, Json.get members key = .arr (choice :: others)) ↔ given.getD [] ≠ [] := by
  unfold optionalStringList at taken
  cases member : Json.get members key with
  | null =>
    rw [member] at taken
    rw [← Except.ok.inj taken]
    simp
  | arr items =>
    rw [member] at taken
    cases texts : Json.nonEmptyTexts items with
    | none => simp [texts] at taken
    | some texts_taken =>
      simp only [texts] at taken
      rw [← Except.ok.inj taken]
      cases items with
      | nil =>
        have none_taken : texts_taken = [] := (Option.some.inj texts).symm
        simp [none_taken]
      | cons choice others =>
        simp only [Json.nonEmptyTexts, List.mapM_cons, Option.bind_eq_bind,
          Option.bind_eq_some_iff] at texts
        obtain ⟨first, -, rest, -, returned⟩ := texts
        rw [← Option.some.inj returned]
        simp
  | bool value => simp [member] at taken
  | int value => simp [member] at taken
  | float text => simp [member] at taken
  | str text => simp [member] at taken
  | obj fields => simp [member] at taken

/-- Choices are analyzed as they are submitted exactly if some are given. -/
theorem optionalTexts_submitted_iff (key : String) (given : Option (List String))
    (others : List String) (defaults : others ≠ []) :
    optionalTexts key given = [(key, Host.textsOr given others)] ↔ given.getD [] ≠ [] := by
  cases given with
  | none => simp [optionalTexts]
  | some texts =>
    by_cases empty : texts = []
    · subst empty
      simpa [optionalTexts, Host.textsOr] using defaults
    · simp [optionalTexts, Host.textsOr, empty]

/-- The analyzed input and the submitted one are one dictionary exactly if choices are given
where the task type has any. -/
theorem analyzedInput_submitted_iff (members : JsonObject) (task : DemoTask)
    (submission : DemoSubmission)
    (normalized : normalizedSubmission members task = .ok submission) :
    (analyzedInput submission).Perm submission.inlineInput ↔ ChoicesGiven members task := by
  cases task with
  | urlCheck =>
    obtain ⟨url, -, rfl⟩ := (Store.map_ok_iff _ _ _).mp normalized
    simp [ChoicesGiven, choicesKey, analyzedInput]
  | dedup =>
    simp only [normalizedSubmission] at normalized
    split at normalized
    · rw [← Except.ok.inj normalized]
      simp [ChoicesGiven, choicesKey, analyzedInput]
    · cases normalized
  | webpageExtraction =>
    obtain ⟨url, -, rfl⟩ := (Store.map_ok_iff _ _ _).mp normalized
    simp [ChoicesGiven, choicesKey, analyzedInput]
  | topicClassification =>
    simp only [normalizedSubmission, Store.bind_ok_iff] at normalized
    obtain ⟨text, -, labels, labels_taken, returned⟩ := normalized
    have given_iff := optionalStringList_ok members "allowed_labels" labels labels_taken
    rw [← Except.ok.inj returned, analyzedInput, DemoSubmission.inlineInput, List.perm_cons,
      List.perm_singleton, optionalTexts_submitted_iff _ _ _ (by simp), ← given_iff]
    simp [ChoicesGiven, choicesKey]
  | claimExtraction =>
    simp only [normalizedSubmission, Store.bind_ok_iff] at normalized
    obtain ⟨text, -, sourceId, -, entity, -, types, types_taken, returned⟩ := normalized
    have given_iff := optionalStringList_ok members "allowed_claim_types" types types_taken
    have moved (choices : String × Json) : ([choices] ++ Host.optionalMember "entity" entity).Perm
        (Host.optionalMember "entity" entity ++ [choices]) := List.perm_append_comm
    rw [← Except.ok.inj returned, analyzedInput, DemoSubmission.inlineInput]
    simp only [List.cons_append, List.nil_append, List.perm_cons]
    rw [← List.singleton_append, (moved _).congr_right, List.perm_append_left_iff,
      List.perm_singleton, optionalTexts_submitted_iff _ _ _ (by simp), ← given_iff]
    simp [ChoicesGiven, choicesKey]

/-- No two members of an analyzed input have one key. -/
theorem analyzedInput_distinct (submission : DemoSubmission) :
    ((analyzedInput submission).map Prod.fst).Nodup := by
  cases submission with
  | urlCheck url => simp [analyzedInput, DemoSubmission.inlineInput]
  | dedup items => simp [analyzedInput, DemoSubmission.inlineInput]
  | webpageExtraction url html text title =>
    cases html <;> cases text <;> cases title <;>
      simp [analyzedInput, DemoSubmission.inlineInput, Host.optionalMember]
  | topicClassification text allowedLabels =>
    cases allowedLabels <;> simp [analyzedInput, optionalTexts]
  | claimExtraction text sourceId entity allowedClaimTypes =>
    cases entity <;> cases allowedClaimTypes <;>
      simp [analyzedInput, optionalTexts, Host.optionalMember]

/-- An accepted request is what its submission is analyzed as. -/
theorem normalizeSubmitRequest_ok (taskType : Option String) (payload : Json)
    (request : NormalizedWorkUnitRequest)
    (accepted : normalizeSubmitRequest taskType payload = .ok request) :
    ∃ submission,
      normalizedSubmission (coercePayloadDict request.task.taskType payload) request.task =
        .ok submission ∧
      request = ⟨submission.task, analyzedInput submission⟩ := by
  simp only [normalizeSubmitRequest, Store.bind_ok_iff] at accepted
  obtain ⟨name, -, -, -, accepted⟩ := accepted
  cases task_named : DemoTask.ofText name with
  | none => simp [task_named] at accepted
  | some task =>
    simp only [task_named, Store.bind_ok_iff, normalizeInlineInput_eq, Store.map_ok_iff]
      at accepted
    obtain ⟨-, -, -, -, inlineInput, ⟨submission, normalized, rfl⟩, returned⟩ := accepted
    have same_name := (DemoTask.ofText_eq_some name task).mp task_named
    subst same_name
    rw [← Except.ok.inj returned]
    refine ⟨submission, normalized, ?_⟩
    rw [normalizedSubmission_task _ task submission normalized]

end HostAdapter

open HostAdapter in
/-- An estimate of an accepted request analyzes the input of the work unit that the request
is submitted as, and so reports the task analysis of that work unit, exactly if the request
gives choices where its task type has any. -/
theorem estimate_describes_submission_iff (runtime : PythonRuntime) (pricing : List JsonObject)
    (pack : LoadedRoutebookV1) (taskType : Option String) (payload : Json)
    (request : NormalizedWorkUnitRequest)
    (accepted : normalizeSubmitRequest taskType payload = .ok request) (estimatedAt : String)
    (stamp : Host.SubmissionStamp) :
    ∃ submission, submitNormalizedRequest runtime request = .ok submission ∧
      (((estimateWorkUnit request estimatedAt).inlineInput.Perm
            (Host.demoWorkUnit submission stamp).inlineInput ∧
          ∀ routePlan otherPlan report otherReport,
            TaskAnalyzer.analyze runtime pricing pack (estimateWorkUnit request estimatedAt)
              routePlan = .ok report →
            TaskAnalyzer.analyze runtime pricing pack (Host.demoWorkUnit submission stamp)
              otherPlan = .ok otherReport →
            TaskAnalyzer.SameAnalysis report otherReport) ↔
        ChoicesGiven (coercePayloadDict request.task.taskType payload) request.task) := by
  obtain ⟨submission, normalized, same_request⟩ :=
    normalizeSubmitRequest_ok taskType payload request accepted
  have submitted_iff := analyzedInput_submitted_iff _ _ submission normalized
  refine ⟨submission, ?_, fun described => ?_, fun given => ?_⟩
  · rw [same_request]
    exact submitNormalizedRequest_analyzed runtime submission
  · apply submitted_iff.mp
    have permuted := described.1
    rw [same_request] at permuted
    exact permuted
  · have permuted := submitted_iff.mpr given
    subst same_request
    refine ⟨permuted, ?_⟩
    intro routePlan otherPlan report otherReport analyzed other_analyzed
    exact TaskAnalyzer.analyze_perm runtime pricing pack
      (estimateWorkUnit ⟨submission.task, analyzedInput submission⟩ estimatedAt)
      (Host.demoWorkUnit submission stamp) rfl rfl rfl permuted (analyzedInput_distinct submission)
      routePlan otherPlan report otherReport analyzed other_analyzed

namespace HostAdapter

section Scenario

open Host (DemoSubmission)

/-- A request to classify a text by labels, if any are given. -/
def topicPayload (labels : JsonObject) : Json := .obj (("text", .str "a") :: labels)

/-- When and under which identifiers a work unit is submitted. -/
def plainStamp : Host.SubmissionStamp := ⟨"0", "0", "2024-01-01T00:00:00Z", "2024-01-01T00:00:00Z"⟩

/-- A request to classify a text by one label. -/
def labelledRequest : NormalizedWorkUnitRequest :=
  ⟨.topicClassification, [("text", .str "a"), ("allowed_labels", .arr [.str "x"])]⟩

/-- The work unit that it is submitted as. -/
def labelledSubmission : DemoSubmission := .topicClassification "a" (some ["x"])

/-- The request is analyzed, and so is its work unit. -/
theorem labelled_analyzed :
    (TaskAnalyzer.analyze Rescoring.plainRuntime [] Rescoring.plainPack
      (estimateWorkUnit labelledRequest "2024-01-01T00:00:00Z") none).toOption.isSome = true ∧
    (TaskAnalyzer.analyze Rescoring.plainRuntime [] Rescoring.plainPack
      (Host.demoWorkUnit labelledSubmission plainStamp) none).toOption.isSome = true := by
  decide +kernel

/-- A request that gives a label is analyzed as the work unit that it is submitted as, with the
same outcome. -/
theorem labelled_estimate_describes_submission :
    (estimateWorkUnit labelledRequest "2024-01-01T00:00:00Z").inlineInput.Perm
      (Host.demoWorkUnit labelledSubmission plainStamp).inlineInput ∧
    ∃ report otherReport,
      TaskAnalyzer.analyze Rescoring.plainRuntime [] Rescoring.plainPack
        (estimateWorkUnit labelledRequest "2024-01-01T00:00:00Z") none = .ok report ∧
      TaskAnalyzer.analyze Rescoring.plainRuntime [] Rescoring.plainPack
        (Host.demoWorkUnit labelledSubmission plainStamp) none = .ok otherReport ∧
      TaskAnalyzer.SameAnalysis report otherReport := by
  obtain ⟨submission, submitted, described_iff⟩ := estimate_describes_submission_iff
    Rescoring.plainRuntime [] Rescoring.plainPack (some "topic_classification")
    (topicPayload [("allowed_labels", .arr [.str "x"])]) labelledRequest rfl
    "2024-01-01T00:00:00Z" plainStamp
  have same : submitNormalizedRequest Rescoring.plainRuntime labelledRequest =
      .ok labelledSubmission := rfl
  obtain rfl := Except.ok.inj (same.symm.trans submitted)
  have given : ChoicesGiven (coercePayloadDict "topic_classification"
      (topicPayload [("allowed_labels", .arr [.str "x"])])) .topicClassification := by
    intro key named
    rw [← Option.some.inj named]
    exact ⟨.str "x", [], rfl⟩
  obtain ⟨inputs, analyses⟩ := described_iff.mpr given
  obtain ⟨analyzed, otherAnalyzed⟩ := labelled_analyzed
  obtain ⟨report, reported⟩ := Option.isSome_iff_exists.mp analyzed
  obtain ⟨otherReport, otherReported⟩ := Option.isSome_iff_exists.mp otherAnalyzed
  rw [SchedulerOp.toOption_some_iff] at reported otherReported
  exact ⟨inputs, report, otherReport, reported, otherReported,
    analyses none none report otherReport reported otherReported⟩

/-- A request without labels is analyzed without the labels that it is submitted with. -/
theorem unlabelled_estimate_differs :
    ¬ ∀ (runtime : PythonRuntime) (taskType : Option String) (payload : Json)
        (request : NormalizedWorkUnitRequest) (submission : DemoSubmission)
        (stamp : Host.SubmissionStamp) (estimatedAt : String),
        normalizeSubmitRequest taskType payload = .ok request →
        submitNormalizedRequest runtime request = .ok submission →
        (estimateWorkUnit request estimatedAt).inlineInput.Perm
          (Host.demoWorkUnit submission stamp).inlineInput := by
  intro described
  have permuted := described Rescoring.plainRuntime (some "topic_classification") (topicPayload [])
    ⟨.topicClassification, [("text", .str "a")]⟩ (.topicClassification "a" none) plainStamp
    "2024-01-01T00:00:00Z" rfl rfl
  have same_length := permuted.length_eq
  simp [estimateWorkUnit, Host.demoWorkUnit, DemoSubmission.inlineInput] at same_length

end Scenario

end HostAdapter

end TokenBank
