import Mathlib
import TokenBank.Config.Loaded
import TokenBank.Models.Base
import TokenBank.Models.RoutePlan
import TokenBank.Models.TaskAnalysis
import TokenBank.Router.PrivacyPreflight

/-!
# Task analysis

What the deterministic preflight reports about a work unit: the shape of its input, an
estimate of its tokens and of its cost, what a privacy scan finds, how complex the task is,
and the task level and privacy level that follow from all of these. Levels are raised, never
lowered. Only the cost depends on which candidate a plan selects.
-/

namespace TokenBank

/-- The report of the preflight on a work unit. -/
structure TaskAnalysisReport where
  taskAnalysisId : String
  workUnitId : String
  routebookId : String
  routebookVersion : String
  taskType : String
  inputShape : InputShape
  tokenEstimate : TokenEstimate
  costEstimate : CostEstimate
  privacyScan : PrivacyScan
  complexity : ComplexityEstimate
  effectiveTaskLevel : TaskLevel
  effectivePrivacyLevel : PrivacyLevel
  preflightDecision : PreflightDecision := .allow
  confidence : Share
  reasonCodes : List String := []

namespace TaskAnalyzer

/-! ## The input -/

mutual
/-- How deep a value is nested. -/
def jsonDepth : Json → Nat
  | .arr items => 1 + itemsDepth items
  | .obj fields => 1 + fieldsDepth fields
  | _ => 1

/-- The depth of the deepest item of an array. -/
def itemsDepth : List Json → Nat
  | [] => 0
  | item :: rest => max (jsonDepth item) (itemsDepth rest)

/-- The depth of the deepest member of an object. -/
def fieldsDepth : List (String × Json) → Nat
  | [] => 0
  | (_, value) :: rest => max (jsonDepth value) (fieldsDepth rest)
end

/-- The member asks for a scan of the workspace. -/
def requestsScan (key : String) (value : Json) : Bool :=
  let keyText := Redaction.normalizedKey key
  (Redaction.occursIn "workspace".toList keyText && Redaction.occursIn "scan".toList keyText) ||
    (["recursive", "recursive_scan"].any (fun name => name.toList = keyText) && value.truthy)

mutual
/-- A value asks for a scan of the workspace, at any depth. -/
def workspaceScanRequested : Json → Bool
  | .arr items => itemsRequestScan items
  | .obj fields => fieldsRequestScan fields
  | _ => false

/-- An item of an array asks for a scan. -/
def itemsRequestScan : List Json → Bool
  | [] => false
  | item :: rest => workspaceScanRequested item || itemsRequestScan rest

/-- A member of an object asks for a scan. -/
def fieldsRequestScan : List (String × Json) → Bool
  | [] => false
  | (key, value) :: rest =>
    requestsScan key value || workspaceScanRequested value || fieldsRequestScan rest
end

/-- The shape of a work unit's input. -/
def inputShapeForWorkUnit (workUnit : WorkUnit) : InputShape where
  inlineChars := (Canonical.canonicalJsonDumps (.obj workUnit.inlineInput)).length
  jsonDepth := jsonDepth (.obj workUnit.inlineInput)
  workspaceScanRequested := workspaceScanRequested (.obj workUnit.inlineInput)

/-! ## Tokens -/

/-- A quotient, rounded up. -/
def ceiling (value divisor : Nat) : Nat := (value + (divisor - 1)) / divisor

/-- How many tokens a text takes. -/
def estimateTextTokens (text : String) : Nat :=
  if text = "" then 0 else max 1 (ceiling text.length 4)

/-- How many tokens an output takes when nothing is known of the input. -/
def defaultOutputTokens (taskType : String) : Nat :=
  (List.lookup taskType [("url_check", 64), ("dedup", 128), ("webpage_extraction", 512),
    ("topic_classification", 96), ("claim_extraction", 512)]).getD 256

/-- How many tokens the output for a text takes. -/
def textOutputTokens (least divisor : Nat) : Json → Nat
  | .str text => max least (min 2048 (ceiling text.length divisor))
  | _ => least

/-- How many tokens the output of a task takes. -/
def estimatedOutputTokens (taskType : String) (inlineInput : JsonObject) : Nat :=
  let least := defaultOutputTokens taskType
  if taskType = "dedup" then
    match Json.get inlineInput "items" with
    | .arr items => max least (items.length * 12)
    | _ => least
  else if taskType = "claim_extraction" then
    textOutputTokens least 12 (Json.get inlineInput "text")
  else if taskType = "webpage_extraction" then
    let text := Json.get inlineInput "text"
    textOutputTokens least 16 (if text.truthy then text else Json.get inlineInput "html")
  else least

/-- How many tokens a task takes. -/
def estimateTokens (taskType : String) (inlineInput : JsonObject) : TokenEstimate :=
  let inputTokens := estimateTextTokens (Canonical.canonicalJsonDumps (.obj inlineInput))
  let outputTokens := estimatedOutputTokens taskType inlineInput
  ⟨inputTokens, outputTokens, inputTokens + outputTokens⟩

/-! ## Complexity -/

/-- The difficulty that the size or the depth of an input amounts to by itself. -/
def inputDifficulty (tokenTotal jsonDepth : Nat) : Option TaskDifficulty :=
  if 32000 ≤ tokenTotal then some .expert
  else if 16000 ≤ tokenTotal then some .high
  else if 6 ≤ jsonDepth then some .medium
  else none

/-- The difficulty of a task: the assumed one, or a greater one that the input amounts
to. An assumed one that is none is looked up in vain, and refused by the report. -/
def raiseDifficulty (baseDifficulty : String) (tokenTotal jsonDepth : Nat) :
    Except Raised TaskDifficulty :=
  match (inputDifficulty tokenTotal jsonDepth).or (TaskDifficulty.ofText baseDifficulty) with
  | none => .error (.keyError baseDifficulty)
  | some target =>
    let base := TaskDifficulty.ofText baseDifficulty
    if (base.map TaskDifficulty.rank).getD 2 < target.rank then .ok target
    else match base with
      | some difficulty => .ok difficulty
      | none => .error .validationError

/-- How often a task of a difficulty is attempted. -/
def estimatedAttempts : TaskDifficulty → ℚ
  | .trivial => 1
  | .easy => 1
  | .medium => 6 / 5
  | .high => 3 / 2
  | .expert => 2

/-- A candidate of the plan needs a tool. -/
def planRequiresTools (routePlan : Option RoutePlan) : Bool :=
  routePlan.any (fun plan => plan.candidates.any (fun candidate => !candidate.backendClass.apiGateway))

/-- How complex a task is. -/
def complexityEstimate (defaults : TaskTypeDefaults) (inputShape : InputShape) (tokenTotal : Nat)
    (routePlan : Option RoutePlan) : Except Raised ComplexityEstimate := do
  let difficulty ← raiseDifficulty defaults.difficulty tokenTotal inputShape.jsonDepth
  return {
    difficulty := difficulty
    estimatedAttempts := estimatedAttempts difficulty
    requiresStrongReasoning := decide (difficulty = .high ∨ difficulty = .expert ∨
      defaults.taskFamily = "strong_reasoning")
    requiresLongContext := decide (16000 ≤ tokenTotal)
    requiresTools := planRequiresTools routePlan
    reasonCodes :=
      ["default_difficulty:" ++ defaults.difficulty, "task_family:" ++ defaults.taskFamily] ++
        (if difficulty.text ≠ defaults.difficulty then ["difficulty_raised:" ++ difficulty.text]
          else []) ++
        (if 16000 ≤ tokenTotal then ["long_context_estimate"] else []) ++
        if planRequiresTools routePlan then ["route_requires_tool_backend"] else [] }

/-! ## Costs -/

/-- What the use of a backend costs. -/
structure Price where
  costProfileId : String
  inputUnitMicros : Int
  outputUnitMicros : Int

/-- The price of a backend among the entries of a pricing table, the first one. -/
def priceAmong (runtime : PythonRuntime) (backendId : String) :
    List Json → Except Raised (Option Price)
  | [] => .ok none
  | entry :: rest => do
    let fields ← entry.asked
    if (Json.get fields "backend_id").same (.str backendId) then
      let inputUnitMicros ← runtime.int (Json.getOr fields "input_unit_micros" (.int 0))
      let outputUnitMicros ← runtime.int (Json.getOr fields "output_unit_micros" (.int 0))
      return some ⟨"pricing:" ++ backendId, inputUnitMicros, outputUnitMicros⟩
    else priceAmong runtime backendId rest

/-- The price of a backend in the pricing tables, the first one. -/
def priceIn (runtime : PythonRuntime) (backendId : String) :
    List JsonObject → Except Raised (Option Price)
  | [] => .ok none
  | document :: rest => do
    let pricing ← (Json.getOr document "pricing" (.obj [])).asked
    let entries ← (Json.getOr pricing "backend_prices" (.arr [])).iterated
    match ← priceAmong runtime backendId entries with
    | some price => return some price
    | none => priceIn runtime backendId rest

/-- The price of a backend. One that no table lists costs what its manifest says. -/
def priceForBackend (runtime : PythonRuntime) (pricing : List JsonObject) :
    Option String → Except Raised Price
  | none => .ok ⟨"pricing:none", 0, 0⟩
  | some backendId =>
    (priceIn runtime backendId pricing).map (fun price =>
      price.getD ⟨"backend_cost_model:" ++ backendId, 0, 0⟩)

/-- The candidate that a plan selects: the first one with the selected id. -/
def selectedCandidate (routePlan : Option RoutePlan) : Option RouteCandidate :=
  routePlan.bind (fun plan => plan.candidates.find? (fun candidate =>
    candidate.routeCandidateId = plan.selectedCandidateId))

/-- Half of a cost, rounded up, and at least one. A cost that no double is near raises. -/
def halved (cost : Nat) : Except Raised Nat :=
  if Double.largest < Number.nearestDouble cost then .error .overflowError
  else .ok (max 1 ⌈Number.nearestDouble cost / 2⌉.toNat)

/-- What a task costs on the backend of the selected candidate. -/
def costEstimate (runtime : PythonRuntime) (pricing : List JsonObject)
    (tokenEstimate : TokenEstimate) (routePlan : Option RoutePlan) :
    Except Raised CostEstimate := do
  let selected := selectedCandidate routePlan
  let price ← priceForBackend runtime pricing (selected.map RouteCandidate.backendId)
  let baseCost := (selected.map RouteCandidate.estimatedCostMicros).getD 0
  let tokenCost := tokenEstimate.estimatedInputTokens * price.inputUnitMicros +
    tokenEstimate.estimatedOutputTokens * price.outputUnitMicros
  let expected := (max (baseCost : Int) tokenCost).toNat
  let least ← if expected = 0 then .ok 0 else halved expected
  return {
    costProfileId := price.costProfileId
    minCostMicros := least
    expectedCostMicros := expected
    maxCostMicros := max expected (expected * 2)
    confidence := if selected.isSome then ⟨4 / 5, Share.fourFifths_bounded⟩ else { value := 11 / 20 }
    costSource := if tokenCost = 0 then "backend_estimate" else "pricing_table_estimate" }

/-! ## Levels -/

/-- The privacy level that the findings of a scan raise a level to. -/
def raisedPrivacyLevel (current : PrivacyLevel) (rawSecret privateData : Bool) : PrivacyLevel :=
  let target := if rawSecret || privateData then .sensitive else current
  if current.rank < target.rank then target else current

/-- The task level that the signals raise a level to. A later signal takes the place of
an earlier one. -/
def raisedTaskLevel (current : TaskLevel) (difficulty : TaskDifficulty)
    (rawSecret privateData : Bool) : TaskLevel :=
  let target := if difficulty = .high ∨ difficulty = .expert then .l2 else current
  let target := if privateData then .l1 else target
  let target := if rawSecret then .l2 else target
  if current.rank < target.rank then target else current

/-- How far an analysis is trusted. -/
def analysisConfidence (inputShape : InputShape) (rawSecret : Bool) : Share :=
  if rawSecret then { value := 9 / 10 }
  else if 20000 < inputShape.inlineChars then { value := 7 / 10 }
  else { value := 41 / 50 }

/-- Analyze a work unit, and the candidates of its plan if it has one. -/
def analyze (runtime : PythonRuntime) (pricing : List JsonObject) (pack : LoadedRoutebookV1)
    (workUnit : WorkUnit) (routePlan : Option RoutePlan) : Except Raised TaskAnalysisReport := do
  let inputShape := inputShapeForWorkUnit workUnit
  let tokenEstimate := estimateTokens workUnit.taskType workUnit.inlineInput
  let privacyScan := PrivacyPreflight.scanPrivacy runtime (.obj workUnit.inlineInput)
  let complexity ← complexityEstimate (pack.defaults workUnit.taskType) inputShape
    tokenEstimate.estimatedTotalTokens routePlan
  let effectiveLevel := raisedTaskLevel workUnit.taskLevel complexity.difficulty
    privacyScan.rawSecretDetected privacyScan.privateDataDetected
  let costEstimate ← costEstimate runtime pricing tokenEstimate routePlan
  let routebookId ← BaseModel.nonEmptyStr pack.routebookId
  let routebookVersion ← BaseModel.nonEmptyStr pack.version
  return {
    taskAnalysisId := "ta_" ++ workUnit.workUnitId ++ "_" ++ workUnit.taskType
    workUnitId := workUnit.workUnitId
    routebookId := routebookId
    routebookVersion := routebookVersion
    taskType := workUnit.taskType
    inputShape := inputShape
    tokenEstimate := tokenEstimate
    costEstimate := costEstimate
    privacyScan := privacyScan
    complexity := complexity
    effectiveTaskLevel := effectiveLevel
    effectivePrivacyLevel := raisedPrivacyLevel workUnit.privacyLevel
      privacyScan.rawSecretDetected privacyScan.privateDataDetected
    preflightDecision :=
      if privacyScan.rawSecretDetected || inputShape.workspaceScanRequested then .deny else .allow
    confidence := analysisConfidence inputShape privacyScan.rawSecretDetected
    reasonCodes :=
      ["deterministic_wp_rb2_preflight", "task_type:" ++ workUnit.taskType,
        "tokenizer:heuristic:cl100k_like:v0"] ++
        (if inputShape.workspaceScanRequested then ["workspace_scan_requested_denied"] else []) ++
        (if privacyScan.rawSecretDetected then ["preflight_deny_raw_secret"] else []) ++
        (if privacyScan.privateDataDetected then ["privacy_level_raised"] else []) ++
        if workUnit.taskLevel.rank < effectiveLevel.rank then ["task_level_raised"] else [] }

end TaskAnalyzer

end TokenBank
