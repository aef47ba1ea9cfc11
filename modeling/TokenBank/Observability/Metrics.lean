import Mathlib.Data.List.Dedup
import Mathlib.Data.Prod.Lex
import Mathlib.Data.String.Basic
import TokenBank.Core.Runtime
import TokenBank.Order.Grouping

/-!
# Metrics of a run

A report sums up the completed results of a run, in total and by task type, backend class,
worker and capacity node. A row joins the columns of a work unit, its assignment, its result,
the report of the verifier and the capacity node with their documents; a column without a
value is read as null, and a document that is no object as an empty one.
-/

namespace TokenBank

/-- The members of a row of results that its metrics are taken from. -/
structure ResultRow where
  workUnitId : Option String
  taskType : Option String
  workerId : Option String
  capacityNodeId : Option String
  resultEnvelopeId : Option String
  verifierReportId : Option String
  verifierStatus : Option String
  recommendation : Option String
  capacityBackendClass : Option String
  resultBody : JsonObject
  verifierBody : JsonObject
  assignmentBody : JsonObject
  capacityBody : JsonObject

/-- What a row counts as. -/
inductive Bucket : Type
  | success
  | warning
  | failure
  | quarantine
deriving DecidableEq

/-- The totals of some rows. -/
structure RowsSummary where
  workUnitCount : Nat
  successCount : Nat
  warningCount : Nat
  failureCount : Nat
  quarantineCount : Nat
  backendFailureCount : Nat
  verifierFailureCount : Nat
  durationMs : Nat
  costMicros : Nat
  estimatedCostMicros : Nat
  actualCostMicros : Nat
deriving DecidableEq

namespace Metrics

/-- The first of some values that counts as true, or a last one. -/
def firstTrue (values : List Json) (last : Json) : Json := (values.find? Json.truthy).getD last

/-- An integer that is not negative, and zero for everything else. -/
def nonNegativeInt : Json → Nat
  | .int value => value.toNat
  | _ => 0

/-- The actual cost if there is one, and else the estimated one. -/
def effectiveCostMicros (resultBody : JsonObject) : Nat :=
  let actual := nonNegativeInt (Json.get resultBody "actual_cost_micros")
  let estimated := nonNegativeInt (Json.get resultBody "cost_estimate_micros")
  if 0 < actual then actual else estimated

/-- The first class of a capacity document, if it is a text. -/
def firstBackendClass (capacityBody : JsonObject) : Json :=
  match Json.get capacityBody "backend_classes" with
  | .arr (.str text :: _) => .str text
  | _ => .null

section Runtime

variable (runtime : PythonRuntime)

/-- The class of the backend of a row. -/
def backendClass (row : ResultRow) : String :=
  runtime.str (firstTrue [Json.get row.resultBody "backend_class",
    Json.get row.assignmentBody "backend_class", .optional row.capacityBackendClass,
    firstBackendClass row.capacityBody] (.str "unknown_backend_class"))

/-- The recommendation of a row. -/
def recommendationOf (row : ResultRow) : String :=
  runtime.str (firstTrue [.optional row.recommendation,
    Json.get row.verifierBody "recommendation"] (.str ""))

/-- The status that the verifier gave a row. -/
def verifierStatusOf (row : ResultRow) : String :=
  runtime.str (firstTrue [.optional row.verifierStatus] (Json.get row.verifierBody "status"))

/-- The status of the result of a row is some text. -/
def resultStatusIs (row : ResultRow) (status : String) : Bool :=
  Json.same (Json.get row.resultBody "status") (.str status)

/-- What a row counts as. -/
def bucket (row : ResultRow) : Bucket :=
  if resultStatusIs row "quarantined" || recommendationOf runtime row = "quarantine" then
    .quarantine
  else if resultStatusIs row "failed" then .failure
  else if recommendationOf runtime row = "accept_with_warning" ||
      verifierStatusOf runtime row = "needs_review" then .warning
  else if recommendationOf runtime row = "accept" && verifierStatusOf runtime row = "passed" then
    .success
  else .failure

/-- The backend of a row failed, or reported errors. -/
def backendFailed (row : ResultRow) : Bool :=
  resultStatusIs row "failed" || (Json.get row.resultBody "errors").truthy

/-- The verifier failed a row that it did not quarantine. -/
def verifierFailed (row : ResultRow) : Bool :=
  recommendationOf runtime row ≠ "quarantine" && verifierStatusOf runtime row = "failed"

/-- How many rows count as something. -/
def inBucket (rows : List ResultRow) (wanted : Bucket) : Nat :=
  rows.countP (fun row => bucket runtime row = wanted)

/-- The totals of rows. -/
def summaryForRows (rows : List ResultRow) : RowsSummary where
  workUnitCount :=
    (rows.filterMap (fun row => row.workUnitId.filter (fun id => id ≠ ""))).dedup.length
  successCount := inBucket runtime rows .success
  warningCount := inBucket runtime rows .warning
  failureCount := inBucket runtime rows .failure
  quarantineCount := inBucket runtime rows .quarantine
  backendFailureCount := rows.countP backendFailed
  verifierFailureCount := rows.countP (verifierFailed runtime)
  durationMs := (rows.map (fun row =>
    nonNegativeInt (Json.get row.resultBody "duration_ms"))).sum
  costMicros := (rows.map (fun row => effectiveCostMicros row.resultBody)).sum
  estimatedCostMicros := (rows.map (fun row =>
    nonNegativeInt (Json.get row.resultBody "cost_estimate_micros"))).sum
  actualCostMicros := (rows.map (fun row =>
    nonNegativeInt (Json.get row.resultBody "actual_cost_micros"))).sum

/-- The totals of all rows. -/
def summarizeTotals (rows : List ResultRow) : RowsSummary := summaryForRows runtime rows

/-- What rows are grouped by under one key. -/
inductive GroupKey : Type
  | taskType
  | backendClass
  | workerId

/-- The group of a row under a key. A column without a value is a group of its own, except that
the worker is then the one that the result names. -/
def groupValue (key : GroupKey) (row : ResultRow) : String :=
  match key with
  | .taskType => runtime.str (firstTrue [.optional row.taskType] (.str "unknown_task_type"))
  | .backendClass => backendClass runtime row
  | .workerId =>
    let value := match row.workerId with
      | some workerId => .str workerId
      | none => Json.get row.resultBody "worker_id"
    runtime.str (firstTrue [value] (.str "unknown_worker_id"))

/-- The capacity node and the backend class of a row. -/
def capacityNodeOf (row : ResultRow) : String × String :=
  (runtime.str (firstTrue [.optional row.capacityNodeId] (.str "unknown_capacity_node")),
    backendClass runtime row)

/-- The totals of rows by a key. -/
def summarizeByKey (rows : List ResultRow) (key : GroupKey) : List (String × RowsSummary) :=
  (Grouping.sortedGroups (groupValue runtime key) id rows).map (fun group =>
    (group.1, summaryForRows runtime group.2))

/-- The totals of rows by their capacity node and their backend class. -/
def capacityNodeSummaries (rows : List ResultRow) : List ((String × String) × RowsSummary) :=
  (Grouping.sortedGroups (capacityNodeOf runtime) toLex rows).map (fun group =>
    (group.1, summaryForRows runtime group.2))

/-- The breakdowns of rows. -/
structure Breakdowns where
  byTaskType : List (String × RowsSummary)
  byBackendClass : List (String × RowsSummary)
  byWorker : List (String × RowsSummary)
  byCapacityNode : List ((String × String) × RowsSummary)

/-- The totals of rows by task type, backend class, worker and capacity node. -/
def backendTaskWorkerSummaries (rows : List ResultRow) : Breakdowns where
  byTaskType := summarizeByKey runtime rows .taskType
  byBackendClass := summarizeByKey runtime rows .backendClass
  byWorker := summarizeByKey runtime rows .workerId
  byCapacityNode := capacityNodeSummaries runtime rows

end Runtime

end Metrics

namespace ReportGenerator

/-- The rows with a result and a report of the verifier. -/
def completedRows (rows : List ResultRow) : List ResultRow :=
  rows.filter (fun row =>
    row.resultEnvelopeId.any (fun id => id ≠ "") && row.verifierReportId.any (fun id => id ≠ ""))

/-- The totals and the breakdowns of the completed rows of a run. -/
def reportSummaries (runtime : PythonRuntime) (rows : List ResultRow) :
    RowsSummary × Metrics.Breakdowns :=
  (Metrics.summarizeTotals runtime (completedRows rows),
    Metrics.backendTaskWorkerSummaries runtime (completedRows rows))

end ReportGenerator

end TokenBank
