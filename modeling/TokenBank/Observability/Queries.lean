import TokenBank.Host.Results
import TokenBank.Observability.Metrics
import TokenBank.Store.Joins

/-!
# Queries of reports

The rows of a run are joined from five tables: its work units, their assignments, the results of
these, the verifier's reports on them, and the capacity nodes. A work unit without an assignment is
a row, and so is an assignment without a result; each report on a result is a row of its own. Only
the columns that reports read are joined. Rows that are equal in all columns the query orders by
come out in the order of the tables here; the database leaves their order open.
-/

namespace TokenBank

/-- The columns of `capacity_nodes` that reports read. -/
structure CapacityColumns where
  backendClass : Option String
  body : Json

/-- A row of `baseline_run_records`. -/
structure BaselineRow where
  runId : String
  body : Json
  createdAt : String

/-- The tables that reports are made of. -/
structure ReportPlane where
  results : ResultsPlane
  capacityNodes : Store.Table String CapacityColumns
  baselineRunRecords : Store.Table String BaselineRow

/-- A row of results, with the columns that are shown besides those of the metrics. -/
structure ReportRow extends ResultRow where
  attemptId : Option String
  assignmentId : Option String
  outputHash : Option String
  resultHash : Option String

/-- How many events of some kind and of some status there are. -/
structure EventCount where
  type : String
  status : String
  count : Nat

/-- The events of a run, counted. -/
structure EventSummary where
  eventCount : Nat
  byType : List (String × Nat)
  byStatus : List (String × Nat)

namespace Queries

/-- A document as it is read back, if it is an object. -/
def jsonObject (body : Json) : JsonObject :=
  match Canonical.jsonLoads (Canonical.canonicalJsonDumps body) with
  | some (.obj fields) => fields
  | _ => []

/-! ## The rows of a run -/

/-- A stored work unit. -/
abbrev WorkUnitEntry := String × WorkUnitDetails

/-- A stored assignment. -/
abbrev AssignmentEntry := String × AssignmentRow

/-- A stored result. -/
abbrev ResultEntry := String × ResultEnvelopeRow

/-- A stored report of the verifier. -/
abbrev ReportEntry := String × VerifierReportRow

/-- A work unit, its assignment, its result and the report on it. -/
abbrev Reported := ((WorkUnitEntry × Option AssignmentEntry) × Option ResultEntry) ×
  Option ReportEntry

/-- The assignment is of the work unit. -/
def ofWorkUnit (workUnit : WorkUnitEntry) (assignment : AssignmentEntry) : Bool :=
  assignment.2.workUnitId = workUnit.1

/-- The result is of the assignment. -/
def ofAssignment (assignment : AssignmentEntry) (result : ResultEntry) : Bool :=
  result.2.assignmentId = assignment.1

/-- The report is on the result. -/
def ofResult (result : ResultEntry) (report : ReportEntry) : Bool :=
  report.2.resultEnvelopeId = result.1

/-- The capacity node is that of the assignment. -/
def atNode (row : Reported) (node : String × CapacityColumns) : Bool :=
  row.1.1.2.any (fun assignment => assignment.2.capacityNodeId = some node.1)

/-- The work units of a run. -/
def workUnitsOf (plane : ReportPlane) (runId : String) : List WorkUnitEntry :=
  plane.results.host.workUnitDetails.select (fun _ row => decide (row.runId = runId))

/-- The joined rows of a run. -/
def joinedRows (plane : ReportPlane) (runId : String) :
    List (Reported × Option (String × CapacityColumns)) :=
  let assigned := Store.leftJoin ofWorkUnit (workUnitsOf plane runId)
    plane.results.db.assignments.entries
  let submitted := Store.leftJoin (Store.onRight ofAssignment) assigned
    plane.results.db.resultEnvelopes.entries
  let reported := Store.leftJoin (Store.onRight ofResult) submitted
    plane.results.verifierReports.entries
  Store.leftJoin atNode reported plane.capacityNodes.entries

/-- Texts come before others, column by column. A missing one comes first. -/
def textsBefore : List (Option String) → List (Option String) → Bool
  | [], _ => true
  | _, [] => false
  | left :: lefts, right :: rights =>
    if left = right then textsBefore lefts rights
    else
      match left, right with
      | none, _ => true
      | _, none => false
      | some text, some other => decide (text < other)

/-- When the work unit of a row, its assignment and its result were made. -/
def createdTexts (row : Reported × Option (String × CapacityColumns)) : List (Option String) :=
  let ⟨⟨⟨workUnit, assignment⟩, result⟩, _⟩ := row.1
  [some workUnit.2.createdAt, assignment.map (fun entry => entry.2.createdAt),
    result.map (fun entry => entry.2.createdAt)]

/-- The row with its documents read. -/
def decodeResultRow (row : Reported × Option (String × CapacityColumns)) : ReportRow :=
  let ⟨⟨⟨⟨workUnit, assignment⟩, result⟩, report⟩, node⟩ := row
  { workUnitId := some workUnit.1
    taskType := some workUnit.2.taskType
    workerId := assignment.map (fun entry => entry.2.workerId)
    capacityNodeId := assignment.bind (fun entry => entry.2.capacityNodeId)
    resultEnvelopeId := result.map Prod.fst
    verifierReportId := report.map Prod.fst
    verifierStatus := report.map (fun entry => entry.2.status)
    recommendation := report.map (fun entry => entry.2.recommendation)
    capacityBackendClass := node.bind (fun entry => entry.2.backendClass)
    resultBody := (result.map (fun entry => jsonObject entry.2.body)).getD []
    verifierBody := (report.map (fun entry => jsonObject entry.2.body)).getD []
    assignmentBody := (assignment.map (fun entry => jsonObject entry.2.body)).getD []
    capacityBody := (node.map (fun entry => jsonObject entry.2.body)).getD []
    attemptId := assignment.map (fun entry => entry.2.attemptId)
    assignmentId := assignment.map Prod.fst
    outputHash := result.map (fun entry => entry.2.outputHash)
    resultHash := result.map (fun entry => entry.2.resultHash) }

/-- The rows of a run. -/
def resultRowsForRun (plane : ReportPlane) (runId : String) : List ReportRow :=
  ((joinedRows plane runId).mergeSort (fun left right =>
    textsBefore (createdTexts left) (createdTexts right))).map decodeResultRow

/-! ## The events of a run -/

/-- An event is of a run, or of one of its work units. -/
def concerns (runId : String) (workUnitIds : List String) (event : EventRow) : Bool :=
  decide (event.runId = some runId) ||
    event.workUnitId.any (fun workUnitId => decide (workUnitId ∈ workUnitIds))

/-- The stored text of the status of an event. -/
def statusText : OutboxStatus → String
  | .pending => "pending"
  | .written => "written"
  | .failed => "failed"

/-- The events of a run. -/
def eventsOf (plane : ReportPlane) (runId : String) : List (String × EventRow) :=
  let workUnitIds := (workUnitsOf plane runId).map Prod.fst
  plane.results.db.eventOutbox.select (fun _ row => concerns runId workUnitIds row)

/-- The events of a run, counted by kind and status, in that order. -/
def eventCounts (plane : ReportPlane) (runId : String) : List EventCount :=
  (Grouping.sortedGroups (fun entry => (entry.2.type, statusText entry.2.status)) toLex
    (eventsOf plane runId)).map (fun group => ⟨group.1.1, group.1.2, group.2.length⟩)

/-- The summary of the events of a run. -/
def eventSummaryForRun (plane : ReportPlane) (runId : String) : EventSummary :=
  (eventCounts plane runId).foldl (fun summary row =>
    { eventCount := summary.eventCount + row.count
      byType := Grouping.add summary.byType row.type row.count
      byStatus := Grouping.add summary.byStatus row.status row.count }) ⟨0, [], []⟩

end Queries

end TokenBank
