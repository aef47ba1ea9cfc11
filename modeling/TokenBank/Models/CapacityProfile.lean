import TokenBank.Models.Backend
import TokenBank.Models.TaskAnalysis

/-!
# Capacity profiles

What is known about the capacity behind a candidate, as far as scoring reads it.
-/

namespace TokenBank

/-- Who owns a capacity. -/
inductive OwnershipScope : Type
  | userLocal
  | teamLocal
  | system
  | peer
deriving DecidableEq

/-- Whether a capacity is available. -/
inductive AvailabilityState : Type
  | available
  | degraded
  | unavailable
  | unknown
deriving DecidableEq

/-- How strong a model is. -/
inductive ModelTier : Type
  | weakGeneral
  | standard
  | strong
  | frontier
  | specialist
deriving DecidableEq

/-- The order of model tiers. -/
def ModelTier.rank : ModelTier → Nat
  | .weakGeneral => 0
  | .standard => 1
  | .strong => 2
  | .frontier => 3
  | .specialist => 3

/-- The model behind a gateway. -/
structure ModelProfile where
  modelId : String
  modelTier : ModelTier := .standard

/-- What is remembered of the quality of earlier results. -/
structure CapacityQualityMemory where
  verifierPassRate : Option Share := none
  sampleSize : Nat := 0

/-- A task type that a capacity is verified for. -/
structure VerifiedForTask where
  taskType : String
  verifierRecipeId : String

/-- The profile of a capacity. -/
structure CapacityProfile where
  capacityProfileId : String
  capacityNodeId : String
  backendId : String
  backendClass : BackendClass
  ownershipScope : OwnershipScope := .userLocal
  executionBoundary : String
  availabilityState : AvailabilityState := .unknown
  modelProfile : Option ModelProfile := none
  capabilities : List (String × Share) := []
  latencyP50Ms : Option Nat := none
  qualityMemory : CapacityQualityMemory := {}
  verifiedFor : List VerifiedForTask := []

end TokenBank
