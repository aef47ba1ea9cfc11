import Mathlib.Algebra.Order.Ring.Rat
import Mathlib.Tactic.NormNum
import TokenBank.Models.WorkUnit

/-!
# What is known about a task before it is routed

The order of task levels, privacy levels and difficulties, and the reports of the
deterministic preflight and of the task profiler, as far as scoring reads them.
-/

namespace TokenBank

/-- Levels are ordered by their number. -/
def TaskLevel.rank : TaskLevel → Nat
  | .l0 => 0
  | .l1 => 1
  | .l2 => 2
  | .l3 => 3

/-- How private a level is. -/
def PrivacyLevel.rank : PrivacyLevel → Nat
  | .privateData => 0
  | .internal => 1
  | .sensitive => 2

/-- How difficult a task is. -/
inductive TaskDifficulty : Type
  | trivial
  | easy
  | medium
  | high
  | expert
deriving DecidableEq

/-- The text of a difficulty. -/
def TaskDifficulty.text : TaskDifficulty → String
  | .trivial => "trivial"
  | .easy => "easy"
  | .medium => "medium"
  | .high => "high"
  | .expert => "expert"

/-- The difficulty with a text, if there is one. -/
def TaskDifficulty.ofText : String → Option TaskDifficulty
  | "trivial" => some .trivial
  | "easy" => some .easy
  | "medium" => some .medium
  | "high" => some .high
  | "expert" => some .expert
  | _ => none

/-- The order of difficulties. -/
def TaskDifficulty.rank : TaskDifficulty → Nat
  | .trivial => 0
  | .easy => 1
  | .medium => 2
  | .high => 3
  | .expert => 4

/-- The size and the shape of an input. -/
structure InputShape where
  inlineChars : Nat
  jsonDepth : Nat
  workspaceScanRequested : Bool

/-- How many tokens a task takes. -/
structure TokenEstimate where
  estimatedInputTokens : Nat
  estimatedOutputTokens : Nat
  estimatedTotalTokens : Nat

/-- How complex a task is. -/
structure ComplexityEstimate where
  difficulty : TaskDifficulty
  estimatedAttempts : ℚ
  requiresStrongReasoning : Bool
  requiresLongContext : Bool
  requiresTools : Bool
  reasonCodes : List String

/-- Whether a task may be routed at all. -/
inductive PreflightDecision : Type
  | allow
  | deny
deriving DecidableEq

/-- A number from zero to one. -/
structure Share where
  value : ℚ
  bounded : 0 ≤ value ∧ value ≤ 1 := by norm_num

/-- Four fifths are a share. -/
theorem Share.fourFifths_bounded : (0 : ℚ) ≤ 4 / 5 ∧ (4 / 5 : ℚ) ≤ 1 := by norm_num

/-- What a task is expected to cost. -/
structure CostEstimate where
  costProfileId : String
  minCostMicros : Nat
  expectedCostMicros : Nat
  maxCostMicros : Nat
  confidence : Share
  costSource : String

/-- A capability that a task needs. -/
structure RequiredCapability where
  capability : String
  minScore : Share

/-- What a task costs most: money, or quality. -/
inductive CostPreference : Type
  | costFirst
  | balanced
  | qualityFirst
deriving DecidableEq

/-- How much the latency of a task matters. -/
inductive RoutePreference : Type
  | low
  | normal
  | high
deriving DecidableEq

/-- How large the context of a task is. -/
inductive ContextSize : Type
  | small
  | medium
  | large
  | unknown
deriving DecidableEq

/-- The profile of a task. -/
structure TaskProfile where
  taskProfileId : String
  workUnitId : String
  routebookId : String
  routebookVersion : String
  taskFamily : String
  taskType : String
  difficulty : TaskDifficulty := .medium
  riskLevel : TaskLevel := .l1
  privacyLevel : PrivacyLevel := .privateData
  contextSize : ContextSize := .unknown
  latencyPreference : RoutePreference := .normal
  costPreference : CostPreference := .balanced
  requiredCapabilities : List RequiredCapability := []
  requiresTools : List String := []
  requiresVerifierRecipeId : Bool := true
  successCriteria : List String := []
  profileReasonCodes : List String := []

end TokenBank
