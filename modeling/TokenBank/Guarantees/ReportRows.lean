import Mathlib.Algebra.Order.BigOperators.Group.List
import TokenBank.Guarantees.HostResults
import TokenBank.Observability.Queries

/-!
# What a report counts

A report on a run counts the completed rows of its query. These are the reports of the verifier,
each once and with the rows that it leads back to: the result it is on, its assignment and the work
unit of that, if the work unit is one of the run.
-/

namespace TokenBank

namespace ReportRows

open Queries

/-! ## One row for each report of the verifier -/

/-- The row has a result and a report of the verifier. -/
def completed (row : ReportRow) : Bool :=
  row.resultEnvelopeId.any (fun id => id ≠ "") && row.verifierReportId.any (fun id => id ≠ "")

/-- The rows that a report on a run counts. -/
def counted (plane : ReportPlane) (runId : String) : List ReportRow :=
  (resultRowsForRun plane runId).filter completed

/-- What a report of the verifier is on, if it is of the run: it leads back to a result, the
assignment of that, and its work unit. -/
def leadsBack (plane : ReportPlane) (runId : String) (report : ReportEntry) : Option Reported :=
  (plane.results.db.resultEnvelopes.find? report.2.resultEnvelopeId).bind fun result =>
    (plane.results.db.assignments.find? result.assignmentId).bind fun assignment =>
      (plane.results.host.workUnitDetails.find? assignment.workUnitId).bind fun workUnit =>
        if workUnit.runId = runId then
          some ((((assignment.workUnitId, workUnit), some (result.assignmentId, assignment)),
            some (report.2.resultEnvelopeId, result)), some report)
        else none

/-- The row of the query that a report of the verifier is in. -/
def rowOf (plane : ReportPlane) (row : Reported) : ReportRow :=
  decodeResultRow (row, plane.capacityNodes.entries.find? (atNode row))

variable (plane : ReportPlane) (runId : String)

theorem single_workUnits : Store.Single ofWorkUnit (workUnitsOf plane runId) := by
  have all : Store.Single ofWorkUnit plane.results.host.workUnitDetails.entries :=
    plane.results.host.workUnitDetails.single
      (fun (assignment : AssignmentEntry) key => assignment.2.workUnitId = key)
      (fun _ _ _ here there => here.symm.trans there)
  exact all.sublist List.filter_sublist

theorem single_assignments : Store.Single ofAssignment plane.results.db.assignments.entries :=
  plane.results.db.assignments.single
    (fun (result : ResultEntry) key => result.2.assignmentId = key)
    (fun _ _ _ here there => here.symm.trans there)

theorem single_results : Store.Single ofResult plane.results.db.resultEnvelopes.entries :=
  plane.results.db.resultEnvelopes.single
    (fun (report : ReportEntry) key => report.2.resultEnvelopeId = key)
    (fun _ _ _ here there => here.symm.trans there)

theorem single_nodes :
    Store.Single (fun node row => atNode row node) plane.capacityNodes.entries := by
  have once : ∀ (row : Reported) (key other : String),
      row.1.1.2.any (fun assignment => assignment.2.capacityNodeId = some key) = true →
      row.1.1.2.any (fun assignment => assignment.2.capacityNodeId = some other) = true →
      key = other := by
    rintro ⟨⟨⟨workUnit, assignment⟩, result⟩, report⟩ key other here there
    cases assignment with
    | none => cases here
    | some assignment =>
      rw [Option.any_some, decide_eq_true_eq] at here there
      exact Option.some.inj (here.symm.trans there)
  have single := plane.capacityNodes.single _ once
  simp only [Bool.decide_eq_true] at single
  exact single

/-- The work unit of an assignment, among those of the run. -/
theorem find?_workUnit (assignment : AssignmentEntry) :
    (workUnitsOf plane runId).find? (fun workUnit => ofWorkUnit workUnit assignment) =
      (plane.results.host.workUnitDetails.find? assignment.2.workUnitId).bind (fun workUnit =>
        if workUnit.runId = runId then some (assignment.2.workUnitId, workUnit) else none) := by
  refine Option.ext ?_
  rintro ⟨workUnitId, workUnit⟩
  rw [(single_workUnits plane runId).find?_some_iff]
  simp only [workUnitsOf, Store.Table.select, List.mem_filter, Store.Table.mem_entries_iff,
    ofWorkUnit, decide_eq_true_eq, Option.bind_eq_some_iff, Option.ite_none_right_eq_some,
    Option.some.injEq, Prod.mk.injEq]
  constructor
  · rintro ⟨⟨found, ofRun⟩, rfl⟩
    exact ⟨workUnit, found, ofRun, rfl, rfl⟩
  · rintro ⟨stored, found, ofRun, rfl, rfl⟩
    exact ⟨⟨found, ofRun⟩, rfl⟩

/-- The rows of work units, assignments and results that a report of the verifier leads back to
are those that the first joins list. -/
theorem find?_submitted (report : ReportEntry) :
    ((Store.leftJoin (Store.onRight ofAssignment) (Store.leftJoin ofWorkUnit
      (workUnitsOf plane runId) plane.results.db.assignments.entries)
      plane.results.db.resultEnvelopes.entries).find? (fun row =>
        Store.onRight ofResult row report)).map (fun row => (row, some report)) =
      leadsBack plane runId report := by
  have workUnits := single_workUnits plane runId
  have assignments := single_assignments plane
  have result := plane.results.db.resultEnvelopes.find?_entries report.2.resultEnvelopeId
  rw [Store.find?_leftJoin (workUnits.leftJoin assignments) (single_results plane), leadsBack]
  change Option.map _ (Option.bind (List.find? (fun entry : ResultEntry =>
    decide (report.2.resultEnvelopeId = entry.1)) _) _) = _
  rw [result]
  cases plane.results.db.resultEnvelopes.find? report.2.resultEnvelopeId with
  | none => rfl
  | some result =>
    have assignment := plane.results.db.assignments.find?_entries result.assignmentId
    rw [Option.map_some, Option.bind_some, Option.bind_some,
      Store.find?_leftJoin workUnits assignments]
    change Option.map _ (Option.map _ (Option.bind (List.find? (fun entry : AssignmentEntry =>
      decide (result.assignmentId = entry.1)) _) _)) = _
    rw [assignment]
    cases plane.results.db.assignments.find? result.assignmentId with
    | none => rfl
    | some assignment =>
      rw [Option.map_some, Option.bind_some, Option.bind_some, find?_workUnit]
      cases plane.results.host.workUnitDetails.find? assignment.workUnitId with
      | none => rfl
      | some workUnit =>
        simp only [Option.bind_some]
        split <;> rfl

/-- The first joins, up to the reports of the verifier. -/
def reportedRows : List Reported :=
  Store.leftJoin (Store.onRight ofResult) (Store.leftJoin (Store.onRight ofAssignment)
    (Store.leftJoin ofWorkUnit (workUnitsOf plane runId) plane.results.db.assignments.entries)
    plane.results.db.resultEnvelopes.entries) plane.results.verifierReports.entries

/-- The rows of the first joins with a report of the verifier are the reports that lead back to
the run. -/
theorem reported_perm : ((reportedRows plane runId).filter (fun row => row.2.isSome)).Perm
    (plane.results.verifierReports.entries.filterMap (leadsBack plane runId)) := by
  have assigned := (single_workUnits plane runId).leftJoin (single_assignments plane)
  have listed : (Store.pairs (reportedRows plane runId)).Perm
      (plane.results.verifierReports.entries.filterMap _) :=
    Store.pairs_perm (assigned.leftJoin (single_results plane))
  rw [← Store.map_pairs]
  refine (listed.map _).trans (.of_eq ?_)
  rw [List.map_filterMap]
  refine List.filterMap_congr ?_
  intro report _
  rw [← find?_submitted, Option.map_map]
  rfl

/-- Each row of the query is one of the first joins, with the capacity node of its assignment. -/
theorem joinedRows_eq : (joinedRows plane runId).map decodeResultRow =
    (reportedRows plane runId).map (rowOf plane) := by
  have nodes : Store.leftJoin atNode (reportedRows plane runId) plane.capacityNodes.entries = _ :=
    Store.leftJoin_lookup (single_nodes plane)
  change (Store.leftJoin atNode (reportedRows plane runId) plane.capacityNodes.entries).map _ = _
  rw [nodes, List.map_map]
  rfl

/-- The completed rows of the query are the reports of the verifier that lead back to the run, one
row for each. -/
theorem counted_perm : (counted plane runId).Perm
    (((plane.results.verifierReports.entries.filterMap (leadsBack plane runId)).map
      (rowOf plane)).filter completed) := by
  have sorted : (counted plane runId).Perm
      (((joinedRows plane runId).map decodeResultRow).filter completed) :=
    ((List.mergeSort_perm _ _).map decodeResultRow).filter completed
  have reported : ((reportedRows plane runId).map (rowOf plane)).filter completed =
      (((reportedRows plane runId).filter (fun row => row.2.isSome)).map (rowOf plane)).filter
        completed := by
    rw [List.filter_map, List.filter_map, List.filter_filter]
    refine congrArg (List.map (rowOf plane)) (List.filter_congr ?_)
    rintro ⟨row, report⟩ _
    cases report with
    | none => simp [completed, rowOf, decodeResultRow]
    | some report => simp
  rw [joinedRows_eq, reported] at sorted
  exact sorted.trans (((reported_perm plane runId).map (rowOf plane)).filter completed)

/-! ## What stays true of the rows of reports -/

/-- What a report refers to is there: the work unit of each result's assignment has a run, and
results and reports of the verifier go by an id. -/
structure Accountable (platform : ResultsPlatform) (plane : ResultsPlane) : Prop where
  sound : StoredSoundly platform plane
  workUnits : ∀ key, (plane.db.workUnits.find? key).isSome = true →
    (plane.host.workUnitDetails.find? key).isSome = true
  results : ∀ key row, plane.db.resultEnvelopes.find? key = some row →
    key ≠ "" ∧ (plane.db.assignments.find? row.assignmentId).isSome = true
  reports : ∀ key row, plane.verifierReports.find? key = some row →
    key ≠ "" ∧ (plane.db.resultEnvelopes.find? row.resultEnvelopeId).isSome = true

/-- What a report was made of stays: work units and results as they are, assignments with their
attempt, work unit and worker, and reports of the verifier on their result. -/
structure Extends (before after : ResultsPlane) : Prop where
  workUnits : ∀ key row, before.host.workUnitDetails.find? key = some row →
    after.host.workUnitDetails.find? key = some row
  assignments : ∀ key row, before.db.assignments.find? key = some row →
    ∃ later, after.db.assignments.find? key = some later ∧ later.attemptId = row.attemptId ∧
      later.workUnitId = row.workUnitId ∧ later.workerId = row.workerId
  results : ∀ key row, before.db.resultEnvelopes.find? key = some row →
    after.db.resultEnvelopes.find? key = some row
  reports : ∀ key row, before.verifierReports.find? key = some row →
    ∃ later, after.verifierReports.find? key = some later ∧
      later.resultEnvelopeId = row.resultEnvelopeId

theorem Extends.refl (plane : ResultsPlane) : Extends plane plane where
  workUnits _ _ found := found
  assignments _ row found := ⟨row, found, rfl, rfl, rfl⟩
  results _ _ found := found
  reports _ row found := ⟨row, found, rfl⟩

theorem Extends.trans {before between after : ResultsPlane} (first : Extends before between)
    (second : Extends between after) : Extends before after where
  workUnits key row found := second.workUnits key row (first.workUnits key row found)
  assignments key row found := by
    obtain ⟨later, there, attempt, unit, worker⟩ := first.assignments key row found
    obtain ⟨last, stored, lastAttempt, lastUnit, lastWorker⟩ := second.assignments key later there
    exact ⟨last, stored, lastAttempt.trans attempt, lastUnit.trans unit, lastWorker.trans worker⟩
  results key row found := second.results key row (first.results key row found)
  reports key row found := by
    obtain ⟨later, there, same⟩ := first.reports key row found
    obtain ⟨last, stored, lastSame⟩ := second.reports key later there
    exact ⟨last, stored, lastSame.trans same⟩

/-- Without rows there is nothing to account for. -/
theorem accountable_fresh {platform : ResultsPlatform} {plane : ResultsPlane}
    (fresh : FreshResults plane) (workUnits : plane.db.workUnits.entries = []) :
    Accountable platform plane where
  sound := fresh.soundly
  workUnits key present := by
    rw [Store.Table.find?_of_entries_nil _ workUnits] at present
    cases present
  results key row found := by
    rw [Store.Table.find?_of_entries_nil _ fresh.db.results] at found
    cases found
  reports key row found := by
    rw [Store.Table.find?_of_entries_nil _ fresh.reports] at found
    cases found

section Steps

variable {platform : ResultsPlatform} {before after : ResultsPlane}

/-- Where results, assignments and reports stay, and work units with them, so does what reports
are made of. -/
theorem accountable_same (accountable : Accountable platform before)
    (sound : StoredSoundly platform after)
    (workUnits : after.db.workUnits = before.db.workUnits)
    (details : after.host.workUnitDetails = before.host.workUnitDetails)
    (assignments : after.db.assignments = before.db.assignments)
    (results : after.db.resultEnvelopes = before.db.resultEnvelopes)
    (reports : after.verifierReports = before.verifierReports) :
    Accountable platform after ∧ Extends before after := by
  refine ⟨⟨sound, ?_, ?_, ?_⟩, ⟨?_, ?_, ?_, ?_⟩⟩
  · rw [workUnits, details]
    exact accountable.workUnits
  · rw [results, assignments]
    exact accountable.results
  · rw [reports, results]
    exact accountable.reports
  · rw [details]
    exact fun _ _ found => found
  · rw [assignments]
    exact fun _ row found => ⟨row, found, rfl, rfl, rfl⟩
  · rw [results]
    exact fun _ _ found => found
  · rw [reports]
    exact fun _ row found => ⟨row, found, rfl⟩

/-- A text that starts with some text is not empty. -/
theorem prefixed_ne_empty {start : String} (rest : String) (some_start : start ≠ "") :
    start ++ rest ≠ "" := fun empty => some_start (String.append_eq_empty_iff.mp empty).1

/-- A finalization adds a report on the result, or keeps the one under its id on its result. -/
theorem accountable_finalized {draws : Draws} {resultEnvelopeId : String}
    {result : Except Raised (Option (VerifierReport × HostResultSummary))}
    (accountable : Accountable platform before)
    (ends : Host.Finalized platform draws resultEnvelopeId before result after) :
    Accountable platform after ∧ Extends before after := by
  have sound := accountable.sound.finalized ends
  obtain ⟨outbox, same_host⟩ := ends.host
  have same_db : after.db = { before.db with eventOutbox := outbox } := by
    rw [ResultsPlane.db, same_host]
    rfl
  have details : after.host.workUnitDetails = before.host.workUnitDetails := by
    rw [same_host]
    rfl
  rcases ends.reports with same | ⟨envelope, context, report, verified, written⟩
  · exact accountable_same accountable sound (by rw [same_db]) details (by rw [same_db])
      (by rw [same_db]) same
  · have results : after.db.resultEnvelopes = before.db.resultEnvelopes := by rw [same_db]
    refine ⟨⟨sound, ?_, ?_, ?_⟩, ⟨?_, ?_, ?_, ?_⟩⟩
    · rw [same_db, details]
      exact accountable.workUnits
    · rw [same_db]
      exact accountable.results
    · intro key row found
      rw [results]
      rw [written, Store.Table.find?_upsert] at found
      split at found
      · rename_i same_key
        subst same_key
        cases stored : before.verifierReports.find? report.verifierReportId with
        | some old =>
          rw [stored] at found
          obtain rfl := Option.some.inj found
          exact accountable.reports _ old stored
        | none =>
          rw [stored] at found
          obtain rfl := Option.some.inj found
          obtain ⟨schemaChecks, -, returned⟩ := (Store.bind_ok_iff _ _ _).mp verified.ran
          obtain rfl := Except.ok.inj returned
          refine ⟨prefixed_ne_empty _ (by decide), ?_⟩
          obtain ⟨same_id, row, there, -⟩ :=
            HostResults.storedEnvelope_some accountable.sound verified.read
          change (before.db.resultEnvelopes.find? envelope.resultEnvelopeId).isSome = true
          rw [same_id, there]
          rfl
      · exact accountable.reports key row found
    · rw [details]
      exact fun _ _ found => found
    · rw [same_db]
      exact fun _ row found => ⟨row, found, rfl, rfl, rfl⟩
    · rw [results]
      exact fun _ _ found => found
    · intro key row found
      rw [written, Store.Table.find?_upsert]
      split
      · rename_i same_key
        subst same_key
        rw [found]
        exact ⟨_, rfl, rfl⟩
      · exact ⟨row, found, rfl⟩

/-- A call of the scheduler adds results of assignments that are there. -/
theorem accountable_scheduled (op : SchedulerOp) (supplied : (ResultOp.schedule op).Supplied platform)
    (accountable : Accountable platform before) :
    Accountable platform (ResultsPlane.dbPart.replace before
        (Scheduler.step platform.scheduler before.db op)) ∧
      Extends before (ResultsPlane.dbPart.replace before
        (Scheduler.step platform.scheduler before.db op)) := by
  have sound := accountable.sound.scheduled op supplied
  rcases Scheduler.step_cases platform.scheduler op before.db accountable.sound.wellFormed with
    ⟨error, -, same⟩ | ⟨reply, plan, -, planned, performed⟩
  · rw [same]
    exact ⟨accountable, .refl before⟩
  · have kept {assignmentId : String}
        (there : (before.db.assignments.find? assignmentId).isSome = true) :
        ((Scheduler.step platform.scheduler before.db op).assignments.find?
          assignmentId).isSome = true := by
      obtain ⟨row, found⟩ := Option.isSome_iff_exists.mp there
      obtain ⟨later, stored, -⟩ := performed.evolves.assignments assignmentId row found
      exact stored ▸ rfl
    refine ⟨⟨sound, ?_, ?_, ?_⟩, ⟨fun _ _ found => found, performed.evolves.assignments, ?_,
      fun _ row found => ⟨row, found, rfl⟩⟩⟩
    · intro key present
      refine accountable.workUnits key ?_
      change ((Scheduler.step platform.scheduler before.db op).workUnits.find? key).isSome = _
        at present
      rwa [performed.workUnits key, Option.isSome_map] at present
    · intro key row found
      have origin := (performed.resultEnvelopes key).symm.trans found
      rcases Option.or_eq_some_iff.mp origin with filed | ⟨-, stored⟩
      · obtain ⟨draws, submission, assignment, attempt, envelope, rfl, admitted, rfl, rfl⟩ :=
          SchedulerOp.newResult_admitted planned filed
        have assigned := ((Scheduler.assignmentForWorker_ok_iff _ _ _ _).mp admitted.found).1
        refine ⟨?_, kept (assigned ▸ rfl)⟩
        have coerced := Scheduler.coerced_of_accepted _ _ _ _ _ admitted.accepted
        cases envelope with
        | none => exact prefixed_ne_empty _ (by decide)
        | some given => exact (supplied.2 given coerced).resultEnvelopeId.2
      · obtain ⟨named, there⟩ := accountable.results key row stored
        exact ⟨named, kept there⟩
    · intro key row found
      obtain ⟨named, there⟩ := accountable.reports key row found
      obtain ⟨result, stored⟩ := Option.isSome_iff_exists.mp there
      exact ⟨named, (HostResults.result_kept performed stored) ▸ rfl⟩
    · exact fun _ _ found => HostResults.result_kept performed found

/-- Every call keeps what reports rely on, and extends what they are made of. -/
theorem accountable_step (keeps : platform.KeepsWorkUnits) (accountable : Accountable platform before)
    (op : ResultOp) (supplied : op.Supplied platform) :
    Accountable platform (ResultsPlane.step platform before op) ∧
      Extends before (ResultsPlane.step platform before op) := by
  have sound := accountable.sound.step keeps op supplied
  have happened := ResultsPlane.step_happened platform before op
  generalize ResultsPlane.step platform before op = after at sound happened
  cases happened with
  | nothing => exact ⟨accountable, .refl before⟩
  | workUnit draws workUnit phase runs workUnits details outbox inserted described =>
    refine ⟨⟨sound, ?_, accountable.results, accountable.reports⟩, ⟨?_,
      fun _ row found => ⟨row, found, rfl, rfl, rfl⟩, fun _ _ found => found,
      fun _ row found => ⟨row, found, rfl⟩⟩⟩
    · intro key present
      change (workUnits.find? key).isSome = true at present
      change (details.find? key).isSome = true
      rw [Store.Table.find?_insert _ _ _ _ inserted] at present
      rw [Store.Table.find?_insert _ _ _ _ described]
      split at present
      · rename_i same_key
        rw [if_pos same_key]
        rfl
      · rename_i other
        rw [if_neg other]
        exact accountable.workUnits key present
    · intro key row found
      change details.find? key = some row
      rw [Store.Table.find?_insert _ _ _ _ described]
      split
      · rename_i same_key
        have absent := ((Store.Table.insert_some_iff _ _ _ _).mp described).1
        rw [← same_key, found] at absent
        cases absent
      · exact found
  | routePlan op routePlan keys outbox stores =>
    exact accountable_same accountable sound rfl rfl rfl rfl rfl
  | policyDecision draws decision keys outbox =>
    exact accountable_same accountable sound rfl rfl rfl rfl rfl
  | scheduled op => exact accountable_scheduled op supplied accountable
  | finalized draws resultEnvelopeId result left ends => exact accountable_finalized accountable ends
  | asked draws workUnitId resultEnvelopeId row result left unsummarised last ends =>
    exact accountable_finalized accountable ends

/-- What reports rely on holds after every run, and a longer run extends what they are made of. -/
theorem accountable_run (keeps : platform.KeepsWorkUnits) (accountable : Accountable platform before)
    (ops : List ResultOp) (supplied : ∀ op ∈ ops, op.Supplied platform) :
    Accountable platform (Store.run (ResultsPlane.step platform) before ops) ∧
      Extends before (Store.run (ResultsPlane.step platform) before ops) :=
  Store.run_preserves (ResultsPlane.step platform)
    (fun plane => Accountable platform plane ∧ Extends before plane) before ops
    ⟨accountable, .refl before⟩ (fun plane op held member => by
      obtain ⟨kept, extended⟩ := accountable_step keeps held.1 op (supplied op member)
      exact ⟨kept, held.2.trans extended⟩)

end Steps

/-! ## Every report of the verifier is counted once -/

section Counted

variable {platform : ResultsPlatform} {plane : ReportPlane}

/-- A report that leads back to a run does so through its result, the assignment of that, and its
work unit. -/
theorem leadsBack_some_iff (runId : String) (report : ReportEntry) (row : Reported) :
    leadsBack plane runId report = some row ↔ ∃ result assignment workUnit,
      plane.results.db.resultEnvelopes.find? report.2.resultEnvelopeId = some result ∧
      plane.results.db.assignments.find? result.assignmentId = some assignment ∧
      plane.results.host.workUnitDetails.find? assignment.workUnitId = some workUnit ∧
      workUnit.runId = runId ∧
      row = ((((assignment.workUnitId, workUnit), some (result.assignmentId, assignment)),
        some (report.2.resultEnvelopeId, result)), some report) := by
  simp only [leadsBack, Option.bind_eq_some_iff, Option.ite_none_right_eq_some, Option.some.injEq]
  constructor
  · rintro ⟨result, found, assignment, assigned, workUnit, described, ofRun, rfl⟩
    exact ⟨result, assignment, workUnit, found, assigned, described, ofRun, rfl⟩
  · rintro ⟨result, assignment, workUnit, found, assigned, described, ofRun, rfl⟩
    exact ⟨result, found, assignment, assigned, workUnit, described, ofRun, rfl⟩

/-- Every report leads back to one run. -/
theorem leadsBack_once (accountable : Accountable platform plane.results) {report : ReportEntry}
    (stored : report ∈ plane.results.verifierReports.entries) :
    ∃ runId, ∀ other, (leadsBack plane other report).isSome = true ↔ other = runId := by
  have found := (Store.Table.mem_entries_iff _ _ _).mp stored
  obtain ⟨result, there⟩ := Option.isSome_iff_exists.mp (accountable.reports _ _ found).2
  obtain ⟨assignment, assigned⟩ := Option.isSome_iff_exists.mp (accountable.results _ _ there).2
  have resolved := accountable.sound.wellFormed
  obtain ⟨attempt, attempted, unit⟩ := resolved.assignments _ _ assigned
  obtain ⟨workUnit, described⟩ := Option.isSome_iff_exists.mp
    (accountable.workUnits _ (unit ▸ resolved.attempts _ _ attempted))
  refine ⟨workUnit.runId, fun other => ?_⟩
  rw [Option.isSome_iff_exists]
  constructor
  · rintro ⟨row, leads⟩
    obtain ⟨_, _, last, sameResult, sameAssignment, sameUnit, ofRun, -⟩ :=
      (leadsBack_some_iff other report row).mp leads
    obtain rfl := Option.some.inj (there.symm.trans sameResult)
    obtain rfl := Option.some.inj (assigned.symm.trans sameAssignment)
    obtain rfl := Option.some.inj (described.symm.trans sameUnit)
    exact ofRun.symm
  · rintro rfl
    exact ⟨_, (leadsBack_some_iff _ report _).mpr
      ⟨result, assignment, workUnit, there, assigned, described, rfl, rfl⟩⟩

/-- A report that leads back is in a completed row. -/
theorem completed_leadsBack (accountable : Accountable platform plane.results) {runId : String}
    {report : ReportEntry} (stored : report ∈ plane.results.verifierReports.entries)
    {row : Reported} (leads : leadsBack plane runId report = some row) :
    completed (rowOf plane row) = true := by
  have found := (Store.Table.mem_entries_iff _ _ _).mp stored
  obtain ⟨result, _, _, there, -, -, -, rfl⟩ := (leadsBack_some_iff runId report row).mp leads
  have named := (accountable.reports _ _ found).1
  have namedResult := (accountable.results _ _ there).1
  simp [completed, rowOf, decodeResultRow, named, namedResult]

/-- The rows that a report counts are those of the reports that lead back to the run. -/
theorem counted_leadsBack (accountable : Accountable platform plane.results) (runId : String) :
    (counted plane runId).Perm
      ((plane.results.verifierReports.entries.filterMap (leadsBack plane runId)).map
        (rowOf plane)) := by
  have all : ∀ row ∈ (plane.results.verifierReports.entries.filterMap
      (leadsBack plane runId)).map (rowOf plane), completed row = true := by
    intro row member
    obtain ⟨reported, listed, rfl⟩ := List.mem_map.mp member
    obtain ⟨report, stored, leads⟩ := List.mem_filterMap.mp listed
    exact completed_leadsBack accountable stored leads
  exact (counted_perm plane runId).trans (.of_eq (List.filter_eq_self.mpr all))

/-- The reports that the counted rows name are those that lead back to the run. -/
theorem counted_ids (accountable : Accountable platform plane.results) (runId : String) :
    ((counted plane runId).map (fun row => row.verifierReportId)).Perm
      ((plane.results.verifierReports.entries.filter (fun report =>
        (leadsBack plane runId report).isSome)).map (fun report => some report.1)) := by
  refine ((counted_leadsBack accountable runId).map _).trans (.of_eq ?_)
  induction plane.results.verifierReports.entries with
  | nil => rfl
  | cons report rest inductionHypothesis =>
    cases leads : leadsBack plane runId report with
    | none =>
      rw [List.filterMap_cons_none leads, List.filter_cons_of_neg (by rw [leads]; decide)]
      exact inductionHypothesis
    | some row =>
      obtain ⟨result, assignment, workUnit, -, -, -, -, rfl⟩ :=
        (leadsBack_some_iff runId report row).mp leads
      rw [List.filterMap_cons_some leads, List.filter_cons_of_pos (by rw [leads]; rfl),
        List.map_cons, List.map_cons, inductionHypothesis]
      rfl

/-- No report of the verifier is in two of the counted rows. -/
theorem counted_ids_nodup (accountable : Accountable platform plane.results) (runId : String) :
    ((counted plane runId).map (fun row => row.verifierReportId)).Nodup := by
  rw [(counted_ids accountable runId).nodup_iff]
  have keys : (plane.results.verifierReports.entries.map Prod.fst).Nodup :=
    plane.results.verifierReports.distinct
  have listed := (List.filter_sublist (l := plane.results.verifierReports.entries)
    (p := fun report => (leadsBack plane runId report).isSome)).map Prod.fst
  have once := (keys.sublist listed).map (Option.some_injective String)
  rwa [List.map_map] at once

/-- After every run, each report of the verifier is in exactly one row that is counted in the
report of exactly one run, and nothing else is counted. -/
theorem every_report_counted (platform : ResultsPlatform) (keeps : platform.KeepsWorkUnits)
    (initial : ResultsPlane) (fresh : FreshResults initial)
    (workUnits : initial.db.workUnits.entries = []) (ops : List ResultOp)
    (supplied : ∀ op ∈ ops, op.Supplied platform) (plane : ReportPlane)
    (reached : plane.results = Store.run (ResultsPlane.step platform) initial ops) :
    (∀ key, (plane.results.verifierReports.find? key).isSome = true → ∃ runId, ∀ other,
        (counted plane other).countP (fun row => row.verifierReportId = some key) =
          if other = runId then 1 else 0) ∧
      ∀ runId, ∀ row ∈ counted plane runId, ∃ key, row.verifierReportId = some key ∧
        (plane.results.verifierReports.find? key).isSome = true := by
  have accountable : Accountable platform plane.results :=
    reached ▸ (accountable_run keeps (accountable_fresh fresh workUnits) ops supplied).1
  constructor
  · intro key present
    obtain ⟨row, found⟩ := Option.isSome_iff_exists.mp present
    have stored := (Store.Table.mem_entries_iff _ _ _).mpr found
    obtain ⟨runId, once⟩ := leadsBack_once accountable stored
    refine ⟨runId, fun other => ?_⟩
    have counts : (counted plane other).countP (fun row => row.verifierReportId = some key) =
        ((counted plane other).map (fun row => row.verifierReportId)).count (some key) := by
      rw [List.count, List.countP_map]
      exact List.countP_congr (fun row _ => by simp)
    rw [counts, (counted_ids_nodup accountable other).count]
    refine if_congr ?_ rfl rfl
    rw [(counted_ids accountable other).mem_iff, ← once other]
    simp only [List.mem_map, List.mem_filter, Option.some.injEq]
    constructor
    · rintro ⟨report, ⟨listed, leads⟩, rfl⟩
      have same := (Store.Table.mem_entries_iff _ _ _).mp listed
      obtain rfl := Option.some.inj (found.symm.trans same)
      exact leads
    · exact fun leads => ⟨(key, row), ⟨stored, leads⟩, rfl⟩
  · intro runId row member
    have listed := (counted_ids accountable runId).mem_iff.mp (List.mem_map_of_mem member)
    obtain ⟨report, there, same⟩ := List.mem_map.mp listed
    have found := (Store.Table.mem_entries_iff _ _ _).mp (List.mem_filter.mp there).1
    exact ⟨report.1, same.symm, found ▸ rfl⟩

end Counted

section Sample

open HostResults

/-- Finalizing the result of the newest attempt of the sample files a report. -/
theorem newest_reported :
    ∃ key, ((reached newestFinalized).verifierReports.find? key).isSome = true := by
  obtain ⟨key, summary, listed, -⟩ := newest_finalized
  have ends := (Host.finalizeUrlCheckResult_ensures samplePlatform (Scenario.draws 21) "res_b"
    (reached handedIn)).run
  have last : reached newestFinalized = ((Host.finalizeUrlCheckResult samplePlatform
      (Scenario.draws 21) "res_b").run (reached handedIn)).2 := by
    rw [reached, newestFinalized, Store.run_append, Store.run_cons, Store.run_nil,
      ResultsPlane.step]
    simp only [ResultOp.program, ResultsPlane.run_discarded]
    rfl
  rw [← last] at ends
  have unsummarised (left : ResultsPlane)
      (same : left.hostResultSummaries = (reached handedIn).hostResultSummaries)
      (listed : summariesOf left "wu_1" = [(key, summary)]) : False := by
    rw [summariesOf, same, Store.Table.select, handedIn_unsummarised] at listed
    cases listed
  generalize reached newestFinalized = left at ends listed ⊢
  generalize ((Host.finalizeUrlCheckResult samplePlatform (Scenario.draws 21) "res_b").run
    (reached handedIn)).1 = result at ends
  cases ends with
  | skipped => exact absurd listed (unsummarised _ rfl)
  | raised error => exact absurd listed (unsummarised _ rfl)
  | reported envelope context report left error verified stored =>
    exact absurd listed (unsummarised left stored.summaries)
  | summarised envelope context report summary reported left verified stored built shown =>
    refine ⟨report.verifierReportId, ?_⟩
    rw [shown.reports, stored.reports, Store.Table.find?_upsert, if_pos rfl]
    rfl

/-- The sample's tables with no capacity nodes and no baselines. -/
def sampleReports (ops : List ResultOp) : ReportPlane := ⟨reached ops, .empty, .empty⟩

/-- The report of the sample is counted in one run. -/
theorem every_report_counted_sample : ∃ key runId, ∀ other,
    (counted (sampleReports newestFinalized) other).countP
        (fun row => row.verifierReportId = some key) = if other = runId then 1 else 0 := by
  obtain ⟨key, present⟩ := newest_reported
  have supplied : ∀ op ∈ newestFinalized, op.Supplied samplePlatform :=
    fun op member => lateFinalized_supplied op (List.mem_append_left _ member)
  obtain ⟨runId, once⟩ := (every_report_counted samplePlatform samplePlatform_keeps samplePlane
    samplePlane_fresh rfl newestFinalized supplied (sampleReports newestFinalized) rfl).1 key present
  exact ⟨key, runId, once⟩

end Sample

/-! ## Reports only grow -/

/-- A counted row without what may change: where it ran, and what the verifier said last. -/
def settled (row : ReportRow) : ReportRow :=
  { row with
    capacityNodeId := none
    verifierStatus := none
    recommendation := none
    capacityBackendClass := none
    verifierBody := []
    assignmentBody := []
    capacityBody := [] }

/-- The totals of the report on a run. -/
def totals (runtime : PythonRuntime) (plane : ReportPlane) (runId : String) : RowsSummary :=
  (ReportGenerator.reportSummaries runtime
    ((resultRowsForRun plane runId).map ReportRow.toResultRow)).1

/-- Nothing is missing from the totals of a later report: not a work unit, and neither time nor
cost. -/
structure NoLess (early late : RowsSummary) : Prop where
  workUnitCount : early.workUnitCount ≤ late.workUnitCount
  durationMs : early.durationMs ≤ late.durationMs
  costMicros : early.costMicros ≤ late.costMicros
  estimatedCostMicros : early.estimatedCostMicros ≤ late.estimatedCostMicros
  actualCostMicros : early.actualCostMicros ≤ late.actualCostMicros

/-- The totals are those of the counted rows. -/
theorem totals_counted (runtime : PythonRuntime) (plane : ReportPlane) (runId : String) :
    totals runtime plane runId = Metrics.summarizeTotals runtime
      ((counted plane runId).map ReportRow.toResultRow) := by
  rw [totals, ReportGenerator.reportSummaries, ReportGenerator.completedRows, List.filter_map]
  rfl

/-- Amounts that rows keep add up to no less where no row is lost. -/
theorem sum_le_of_settled {early late : List ReportRow}
    (kept : (early.map settled).Subperm (late.map settled)) (amount : JsonObject → Nat) :
    ((early.map ReportRow.toResultRow).map (fun row => amount row.resultBody)).sum ≤
      ((late.map ReportRow.toResultRow).map (fun row => amount row.resultBody)).sum := by
  obtain ⟨between, same, among⟩ := kept
  have amounts := (among.map (fun row => amount row.resultBody)).sum_le_sum (by simp)
  rw [(same.map (fun row => amount row.resultBody)).sum_eq, List.map_map, List.map_map] at amounts
  rw [List.map_map, List.map_map]
  exact amounts

/-- No work unit is lost where no row is. -/
theorem workUnits_le_of_settled {early late : List ReportRow}
    (kept : (early.map settled).Subperm (late.map settled)) (runtime : PythonRuntime) :
    (Metrics.summarizeTotals runtime (early.map ReportRow.toResultRow)).workUnitCount ≤
      (Metrics.summarizeTotals runtime (late.map ReportRow.toResultRow)).workUnitCount := by
  have units (rows : List ReportRow) :
      (rows.map ReportRow.toResultRow).filterMap
          (fun row => row.workUnitId.filter (fun id => id ≠ "")) =
        (rows.map settled).filterMap (fun row => row.workUnitId.filter (fun id => id ≠ "")) := by
    rw [List.filterMap_map, List.filterMap_map]
    rfl
  simp only [Metrics.summarizeTotals, Metrics.summaryForRows, units]
  refine (List.subperm_of_subset (List.nodup_dedup _) ?_).length_le
  intro workUnitId listed
  rw [List.mem_dedup, List.mem_filterMap] at listed ⊢
  obtain ⟨row, member, named⟩ := listed
  exact ⟨row, kept.subset member, named⟩

section Growing

variable {platform : ResultsPlatform} {early late : ReportPlane}

/-- What a report of the verifier leads back to stays. -/
theorem leadsBack_kept (extended : Extends early.results late.results) {runId : String}
    {report : ReportEntry} (stored : report ∈ early.results.verifierReports.entries)
    {row : Reported} (leads : leadsBack early runId report = some row) :
    ∃ later ∈ late.results.verifierReports.entries, ∃ lastRow,
      leadsBack late runId later = some lastRow ∧
      settled (rowOf late lastRow) = settled (rowOf early row) := by
  obtain ⟨result, assignment, workUnit, there, assigned, described, ofRun, rfl⟩ :=
    (leadsBack_some_iff runId report row).mp leads
  have found := (Store.Table.mem_entries_iff _ _ _).mp stored
  obtain ⟨later, kept, onResult⟩ := extended.reports _ _ found
  obtain ⟨last, lastAssigned, attempt, unit, worker⟩ := extended.assignments _ _ assigned
  refine ⟨(report.1, later), (Store.Table.mem_entries_iff _ _ _).mpr kept, _,
    (leadsBack_some_iff runId _ _).mpr ⟨result, last, workUnit, ?_, lastAssigned, ?_, ofRun, rfl⟩, ?_⟩
  · rw [onResult]
    exact extended.results _ _ there
  · rw [unit]
    exact extended.workUnits _ _ described
  · simp only [settled, rowOf, decodeResultRow, Option.map_some, onResult, attempt, unit, worker]

/-- No counted row is lost. -/
theorem counted_kept (accountable : Accountable platform early.results)
    (accountableLate : Accountable platform late.results)
    (extended : Extends early.results late.results) (runId : String) :
    ((counted early runId).map settled).Subperm ((counted late runId).map settled) := by
  have distinct : ((counted early runId).map settled).Nodup := by
    have ids := counted_ids_nodup accountable runId
    refine List.Nodup.of_map (fun row => row.verifierReportId) ?_
    rwa [List.map_map]
  refine List.subperm_of_subset distinct ?_
  intro kept member
  obtain ⟨row, listed, rfl⟩ := List.mem_map.mp member
  obtain ⟨reported, among, rfl⟩ :=
    List.mem_map.mp ((counted_leadsBack accountable runId).mem_iff.mp listed)
  obtain ⟨report, stored, leads⟩ := List.mem_filterMap.mp among
  obtain ⟨later, there, lastRow, lastLeads, same⟩ := leadsBack_kept extended stored leads
  rw [← same]
  refine List.mem_map_of_mem ((counted_leadsBack accountableLate runId).mem_iff.mpr ?_)
  exact List.mem_map_of_mem (List.mem_filterMap.mpr ⟨later, there, lastLeads⟩)

/-- In every run, the report on a run of the host keeps the rows it has counted once, with their
work unit, attempt, assignment, worker, result and its hashes, and its totals of work units, time
and cost never decrease. -/
theorem report_extends (platform : ResultsPlatform) (keeps : platform.KeepsWorkUnits)
    (initial : ResultsPlane) (fresh : FreshResults initial)
    (workUnits : initial.db.workUnits.entries = []) (before after : List ResultOp)
    (supplied : ∀ op ∈ before ++ after, op.Supplied platform) (early late : ReportPlane)
    (reached : early.results = Store.run (ResultsPlane.step platform) initial before)
    (continued : late.results = Store.run (ResultsPlane.step platform) initial (before ++ after))
    (runtime : PythonRuntime) (runId : String) :
    ((counted early runId).map settled).Subperm ((counted late runId).map settled) ∧
      NoLess (totals runtime early runId) (totals runtime late runId) := by
  have first := (accountable_run keeps (accountable_fresh fresh workUnits) before
    (fun op member => supplied op (List.mem_append_left _ member))).1
  have second := accountable_run keeps first after
    (fun op member => supplied op (List.mem_append_right _ member))
  rw [Store.run_append] at continued
  rw [← reached] at first second continued
  rw [← continued] at second
  have kept := counted_kept first second.1 second.2 runId
  refine ⟨kept, ?_⟩
  rw [totals_counted, totals_counted]
  exact {
    workUnitCount := workUnits_le_of_settled kept runtime
    durationMs := sum_le_of_settled kept
      (fun body => Metrics.nonNegativeInt (Json.get body "duration_ms"))
    costMicros := sum_le_of_settled kept Metrics.effectiveCostMicros
    estimatedCostMicros := sum_le_of_settled kept
      (fun body => Metrics.nonNegativeInt (Json.get body "cost_estimate_micros"))
    actualCostMicros := sum_le_of_settled kept
      (fun body => Metrics.nonNegativeInt (Json.get body "actual_cost_micros")) }

end Growing

/-- A runtime that knows ASCII only. -/
def sampleRuntime : PythonRuntime := ⟨fun _ => false, fun _ => false, fun _ => "", fun _ => none⟩

/-- When the late result of the sample is finalized, what the report has counted stays. -/
theorem report_extends_sample :
    ((counted (sampleReports HostResults.newestFinalized) "run_1").map settled).Subperm
        ((counted (sampleReports HostResults.lateFinalized) "run_1").map settled) ∧
      NoLess (totals sampleRuntime (sampleReports HostResults.newestFinalized) "run_1")
        (totals sampleRuntime (sampleReports HostResults.lateFinalized) "run_1") :=
  report_extends HostResults.samplePlatform HostResults.samplePlatform_keeps
    HostResults.samplePlane HostResults.samplePlane_fresh rfl HostResults.newestFinalized
    [.finalize (Scenario.draws 22) "res_a"] HostResults.lateFinalized_supplied
    (sampleReports HostResults.newestFinalized) (sampleReports HostResults.lateFinalized) rfl rfl
    sampleRuntime "run_1"

/-! ## The events of a run -/

/-- A summary built from counts of events has their sum, and adds them up by kind and by status. -/
theorem eventSummary_foldl (rows : List EventCount) (summary : EventSummary) :
    rows.foldl (fun summary row =>
      { eventCount := summary.eventCount + row.count
        byType := Grouping.add summary.byType row.type row.count
        byStatus := Grouping.add summary.byStatus row.status row.count }) summary =
      { eventCount := summary.eventCount + (rows.map EventCount.count).sum
        byType := rows.foldl (fun amounts row => Grouping.add amounts row.type row.count)
          summary.byType
        byStatus := rows.foldl (fun amounts row => Grouping.add amounts row.status row.count)
          summary.byStatus } := by
  induction rows generalizing summary with
  | nil => rfl
  | cons row rest inductionHypothesis =>
    rw [List.foldl_cons, inductionHypothesis]
    simp only [List.map_cons, List.sum_cons, List.foldl_cons, Nat.add_assoc]

/-- The summary of the events of a run counts each event once: in all, under its kind and under
its status. -/
theorem event_summary_counts (plane : ReportPlane) (runId : String) :
    (eventSummaryForRun plane runId).eventCount = (eventsOf plane runId).length ∧
      Grouping.Counts (fun event => event.2.type) (eventSummaryForRun plane runId).byType
        (eventsOf plane runId) ∧
      Grouping.Counts (fun event => statusText event.2.status)
        (eventSummaryForRun plane runId).byStatus (eventsOf plane runId) := by
  let kind := fun event : String × EventRow => (event.2.type, statusText event.2.status)
  have partition := Grouping.sortedGroups_partition kind toLex (eventsOf plane runId)
  have byType := partition.counts kind Prod.fst
  have byStatus := partition.counts kind Prod.snd
  have sizes := partition.sum kind (fun _ => 1)
  rw [eventSummaryForRun, eventCounts, eventSummary_foldl]
  refine ⟨?_, ?_, ?_⟩
  · simpa [Function.comp_def] using sizes
  · simpa only [List.foldl_map] using byType
  · simpa only [List.foldl_map] using byStatus

end ReportRows

end TokenBank
