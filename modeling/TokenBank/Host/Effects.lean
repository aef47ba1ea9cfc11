import TokenBank.Host.Finalization
import TokenBank.Store.Postconditions

/-!
# What finalizing a result does

A finalization that gets as far as the verifier writes the report, and one that returns the
summary as well, each in a transaction of its own; besides these rows only events are written.
-/

namespace TokenBank

/-- The tables after events have been enqueued. -/
def ResultsPlane.withEvents (plane : ResultsPlane) (outbox : Store.Table String EventRow) :
    ResultsPlane :=
  ResultsPlane.dbPart.replace plane { plane.db with eventOutbox := outbox }

namespace Host

/-- Enqueueing an event changes nothing but the outbox. -/
theorem enqueueIn_ok {τ : Type} (part : Store.Part τ Db) (event : OutboxEventInput)
    (createdAt : String) (before after : τ) (value : Unit)
    (enqueued : (enqueueIn part event createdAt).run before = .ok (value, after)) :
    ∃ outbox, after = part.replace before { part.read before with eventOutbox := outbox } := by
  simp only [enqueueIn, Store.Block.run_bind_ok, Store.Block.run_fetch_ok,
    Store.Block.run_put_ok] at enqueued
  obtain ⟨sequence, between, ⟨-, rfl⟩, written⟩ := enqueued
  obtain ⟨db, inserted, rfl⟩ := (Store.map_ok_iff _ _ _).mp written
  unfold Outbox.insertPending at inserted
  split at inserted
  · cases inserted
  · obtain ⟨outbox, -, rfl⟩ := (Store.map_ok_iff _ _ _).mp inserted
    exact ⟨outbox, rfl⟩

/-! ## The rows of a finalization -/

/-- The row of a report. -/
def verifierReportRow (report : VerifierReport) : VerifierReportRow :=
  ⟨report.workUnitId, report.resultEnvelopeId, report.status.text, report.recommendation.text,
    .obj report.modelDump, report.createdAt⟩

/-- A stored report, after another one was written under its id. -/
def rewriteReport (report : VerifierReport) (row : VerifierReportRow) : VerifierReportRow :=
  { row with
    status := report.status.text
    recommendation := report.recommendation.text
    body := .obj report.modelDump }

/-- The row of a summary. -/
def hostSummaryRow (summary : HostResultSummary) : HostSummaryRow :=
  ⟨summary.workUnitId, summary.runId, .obj summary.modelDump, summary.generatedAt⟩

/-- A stored summary, after another one was written under its id. -/
def rewriteSummary (summary : HostResultSummary) (row : HostSummaryRow) : HostSummaryRow :=
  { row with body := .obj summary.modelDump }

/-- Writing a report files it, or rewrites the one under its id. -/
theorem putVerifierReport_ok (report : VerifierReport) (before after : ResultsPlane)
    (written : putVerifierReport report before = .ok after) :
    after = { before with
      verifierReports := before.verifierReports.upsert report.verifierReportId
        (verifierReportRow report) (rewriteReport report) } := by
  unfold putVerifierReport at written
  cases found : before.verifierReports.find? report.verifierReportId with
  | some row =>
    simp only [found, Option.isSome_some, if_true, Except.ok.injEq] at written
    rw [Store.Table.upsert_present _ _ _ _ (by simp [found])]
    exact written.symm
  | none =>
    simp only [found, Option.isSome_none, Bool.false_eq_true, if_false] at written
    obtain ⟨reports, inserted, rfl⟩ := (Store.map_ok_iff _ _ _).mp written
    have stored := ((Db.inserting_ok_iff _ _ _ _ _ _).mp inserted).1
    have absent := Store.Table.upsert_absent before.verifierReports report.verifierReportId
      (verifierReportRow report) (rewriteReport report) found
    rw [verifierReportRow] at absent
    rw [Option.some.inj (stored.symm.trans absent)]
    rfl

/-- Writing a summary files it, or rewrites the one under its id. -/
theorem putHostResultSummary_ok (platform : ResultsPlatform) (summary : HostResultSummary)
    (before after : ResultsPlane)
    (written : putHostResultSummary platform summary before = .ok after) :
    after = { before with
      hostResultSummaries := before.hostResultSummaries.upsert (summaryId platform summary)
        (hostSummaryRow summary) (rewriteSummary summary) } := by
  unfold putHostResultSummary at written
  cases found : before.hostResultSummaries.find? (summaryId platform summary) with
  | some row =>
    simp only [found, Option.isSome_some, if_true, Except.ok.injEq] at written
    rw [Store.Table.upsert_present _ _ _ _ (by simp [found])]
    exact written.symm
  | none =>
    simp only [found, Option.isSome_none, Bool.false_eq_true, if_false] at written
    obtain ⟨summaries, inserted, rfl⟩ := (Store.map_ok_iff _ _ _).mp written
    have stored := ((Db.inserting_ok_iff _ _ _ _ _ _).mp inserted).1
    have absent := Store.Table.upsert_absent before.hostResultSummaries
      (summaryId platform summary) (hostSummaryRow summary) (rewriteSummary summary) found
    rw [hostSummaryRow] at absent
    rw [Option.some.inj (stored.symm.trans absent)]
    rfl

/-- Writing the results of checks changes nothing but their table. -/
theorem putCheckResults_ok (platform : ResultsPlatform) (report : VerifierReport) (index : Nat)
    (checks : List VerifierCheckResult) (before after : ResultsPlane) (value : Unit)
    (written : (putCheckResults platform report index checks).run before = .ok (value, after)) :
    ∃ results, after = { before with verifierCheckResults := results } := by
  induction checks generalizing index before with
  | nil =>
    simp only [putCheckResults, Store.Block.run_pure_ok] at written
    exact ⟨before.verifierCheckResults, written.2⟩
  | cons check rest inductionHypothesis =>
    simp only [putCheckResults, Store.Block.run_bind_ok, Store.Block.run_put_ok] at written
    obtain ⟨-, between, put, later⟩ := written
    obtain ⟨results, rfl⟩ := inductionHypothesis (index + 1) between later
    simp only [putCheckResult] at put
    split at put
    · have same_plane := Except.ok.inj put
      subst same_plane
      exact ⟨results, rfl⟩
    · obtain ⟨others, -, rfl⟩ := (Store.map_ok_iff _ _ _).mp put
      exact ⟨results, rfl⟩

/-- A report is stored: besides its row, only results of checks and events are written. -/
structure ReportStored (report : VerifierReport) (before after : ResultsPlane) : Prop where
  host : ∃ outbox, after.host = (before.withEvents outbox).host
  reports : after.verifierReports = before.verifierReports.upsert report.verifierReportId
    (verifierReportRow report) (rewriteReport report)
  summaries : after.hostResultSummaries = before.hostResultSummaries

/-- A summary is stored: besides its row, only events are written. -/
structure SummaryStored (platform : ResultsPlatform) (summary : HostResultSummary)
    (before after : ResultsPlane) : Prop where
  host : ∃ outbox, after.host = (before.withEvents outbox).host
  reports : after.verifierReports = before.verifierReports
  summaries : after.hostResultSummaries = before.hostResultSummaries.upsert
    (summaryId platform summary) (hostSummaryRow summary) (rewriteSummary summary)

/-- The transaction of a report stores it. -/
theorem reportStored (platform : ResultsPlatform) (draws : Draws) (report : VerifierReport)
    (before after : ResultsPlane) (value : Unit)
    (stored : (persistVerifierReportWrites platform draws report).run before = .ok (value, after)) :
    ReportStored report before after := by
  simp only [persistVerifierReportWrites, Store.Block.run_bind_ok, Store.Block.run_put_ok] at stored
  obtain ⟨-, written, put, value, checked, checks, enqueued⟩ := stored
  have same_written := putVerifierReport_ok report before written put
  subst same_written
  obtain ⟨results, rfl⟩ := putCheckResults_ok platform report 0 report.checks _ _ _ checks
  obtain ⟨outbox, rfl⟩ := enqueueIn_ok ResultsPlane.dbPart _ _ _ _ _ enqueued
  exact ⟨⟨outbox, rfl⟩, rfl, rfl⟩

/-- The transaction of a summary stores it. -/
theorem summaryStored (platform : ResultsPlatform) (draws : Draws) (summary : HostResultSummary)
    (before after : ResultsPlane) (value : Unit)
    (stored : (persistHostResultSummaryWrites platform draws summary).run before =
      .ok (value, after)) : SummaryStored platform summary before after := by
  simp only [persistHostResultSummaryWrites, Store.Block.run_bind_ok,
    Store.Block.run_put_ok] at stored
  obtain ⟨-, written, put, enqueued⟩ := stored
  have same_written := putHostResultSummary_ok platform summary before written put
  subst same_written
  obtain ⟨outbox, rfl⟩ := enqueueIn_ok ResultsPlane.dbPart _ _ _ _ _ enqueued
  exact ⟨⟨outbox, rfl⟩, rfl, rfl⟩

/-! ## Finalizing -/

/-- The envelope that a stored result is read as, if it is there and is one. -/
def storedEnvelope (platform : ResultsPlatform) (db : Db) (resultEnvelopeId : String) :
    Option WorkUnitResultEnvelope :=
  (db.resultEnvelopes.find? resultEnvelopeId).bind (fun row => platform.readEnvelope row.body)

/-- The context of a work unit, from the documents that are stored for it. -/
def contextOf (platform : ResultsPlatform) (plane : ResultsPlane) (workUnitId : String) :
    Except Raised (Option SupportedContext) :=
  let routePlan := Store.newest (fun entry => entry.2.createdAt)
    (plane.host.plane.routePlans.select (fun _ row => decide (row.workUnitId = workUnitId)))
  let policyDecision := Store.newest (fun entry => entry.2.createdAt)
    (plane.host.policyDecisions.select (fun _ row => decide (row.workUnitId = workUnitId)))
  match plane.host.workUnitDetails.find? workUnitId, routePlan, policyDecision with
  | some workUnit, some (_, routePlan), some (_, policyDecision) =>
    supportedContext platform workUnit.body routePlan.body policyDecision.body
  | _, _, _ => .ok none

/-- Reading the context of a work unit leaves everything as it is. -/
theorem loadSupportedContext_ensures (platform : ResultsPlatform) (plane : ResultsPlane)
    (workUnitId : String) :
    Store.Client.Ensures (loadSupportedContext platform workUnitId) plane
      (fun result left => result = contextOf platform plane workUnitId ∧ left = plane) := by
  refine .bind (Store.Client.ensures_fetch _ ?_)
  refine .bind (Store.Client.ensures_fetch _ ?_)
  refine .bind (Store.Client.ensures_fetch _ ?_)
  dsimp only [contextOf]
  cases plane.host.workUnitDetails.find? workUnitId with
  | none => exact Store.Client.ensures_pure _ ⟨rfl, rfl⟩
  | some workUnit =>
    cases Store.newest (fun entry => entry.2.createdAt)
        (plane.host.plane.routePlans.select (fun _ row => decide (row.workUnitId = workUnitId))) with
    | none => exact Store.Client.ensures_pure _ ⟨rfl, rfl⟩
    | some routePlan =>
      cases Store.newest (fun entry => entry.2.createdAt)
          (plane.host.policyDecisions.select (fun _ row => decide (row.workUnitId = workUnitId))) with
      | none => exact Store.Client.ensures_pure _ ⟨rfl, rfl⟩
      | some decision => exact Store.Client.ensures_ofExcept _ ⟨rfl, rfl⟩

/-- The verifier has run on a stored result. -/
structure Verified (platform : ResultsPlatform) (draws : Draws) (resultEnvelopeId : String)
    (plane : ResultsPlane) (envelope : WorkUnitResultEnvelope) (context : SupportedContext)
    (report : VerifierReport) : Prop where
  read : storedEnvelope platform plane.db resultEnvelopeId = some envelope
  supported : contextOf platform plane envelope.workUnitId = .ok (some context)
  ran : VerifierRunner.run platform.verifier context.recipe envelope
    (some context.workUnit.modelDump) (some context.policyDecision.modelDump) (draws.utcText 0) =
      .ok report

/-- A report names the work unit and the result of its envelope. -/
theorem Verified.names {platform : ResultsPlatform} {draws : Draws} {resultEnvelopeId : String}
    {plane : ResultsPlane} {envelope : WorkUnitResultEnvelope} {context : SupportedContext}
    {report : VerifierReport}
    (verified : Verified platform draws resultEnvelopeId plane envelope context report) :
    report.workUnitId = envelope.workUnitId ∧
      report.resultEnvelopeId = envelope.resultEnvelopeId := by
  obtain ⟨schemaChecks, -, returned⟩ := (Store.bind_ok_iff _ _ _).mp verified.ran
  have same_report := Except.ok.inj returned
  subst same_report
  exact ⟨rfl, rfl⟩

/-- What a summary says about its result. -/
theorem built_summary {workUnit : WorkUnit} {envelope : WorkUnitResultEnvelope}
    {report : VerifierReport} {generatedAt : String} {summary : HostResultSummary}
    (built : buildHostSummary workUnit envelope report generatedAt = .ok summary) :
    summary.workUnitId = workUnit.workUnitId ∧ summary.traceRef = envelope.resultEnvelopeId ∧
      summary.generatedAt = generatedAt := by
  obtain ⟨text, -, returned⟩ := (Store.bind_ok_iff _ _ _).mp built
  have same_summary := Except.ok.inj returned
  subst same_summary
  exact ⟨rfl, rfl, rfl⟩

/-- How a finalization ends: it changes nothing, it raises after the report is stored, or it
returns with the summary stored too. -/
inductive Finalized (platform : ResultsPlatform) (draws : Draws) (resultEnvelopeId : String)
    (plane : ResultsPlane) :
    Except Raised (Option (VerifierReport × HostResultSummary)) → ResultsPlane → Prop
  | skipped : Finalized platform draws resultEnvelopeId plane (.ok none) plane
  | raised (error : Raised) : Finalized platform draws resultEnvelopeId plane (.error error) plane
  | reported (envelope : WorkUnitResultEnvelope) (context : SupportedContext)
      (report : VerifierReport) (left : ResultsPlane) (error : Raised)
      (verified : Verified platform draws resultEnvelopeId plane envelope context report)
      (stored : ReportStored report plane left) :
      Finalized platform draws resultEnvelopeId plane (.error error) left
  | summarised (envelope : WorkUnitResultEnvelope) (context : SupportedContext)
      (report : VerifierReport) (summary : HostResultSummary) (reported left : ResultsPlane)
      (verified : Verified platform draws resultEnvelopeId plane envelope context report)
      (stored : ReportStored report plane reported)
      (built : buildHostSummary context.workUnit envelope report (draws.utcText 2) = .ok summary)
      (kept : SummaryStored platform summary reported left) :
      Finalized platform draws resultEnvelopeId plane (.ok (some (report, summary))) left

/-- Every finalization ends in one of these ways. -/
theorem finalizeUrlCheckResult_ensures (platform : ResultsPlatform) (draws : Draws)
    (resultEnvelopeId : String) (plane : ResultsPlane) :
    Store.Client.Ensures (finalizeUrlCheckResult platform draws resultEnvelopeId) plane
      (Finalized platform draws resultEnvelopeId plane) := by
  refine .bind (Store.Client.ensures_fetch _ ?_)
  cases read : storedEnvelope platform plane.db resultEnvelopeId with
  | none =>
    unfold storedEnvelope at read
    simp only [read]
    exact Store.Client.ensures_pure _ .skipped
  | some envelope =>
    have found := read
    unfold storedEnvelope at found
    simp only [found]
    refine .bind ((loadSupportedContext_ensures platform plane envelope.workUnitId).mono ?_)
    rintro result left ⟨loaded, rfl⟩
    cases result with
    | error error => exact .raised error
    | ok context =>
      cases context with
      | none => exact Store.Client.ensures_pure _ .skipped
      | some context =>
        refine .bind (.bind (Store.Client.ensures_ofExcept _ ?_))
        cases ran : VerifierRunner.run platform.verifier context.recipe envelope
            (some context.workUnit.modelDump) (some context.policyDecision.modelDump)
            (draws.utcText 0) with
        | error error => exact .raised error
        | ok report =>
          have verified : Verified platform draws resultEnvelopeId left envelope context report :=
            ⟨read, loaded.symm, ran⟩
          refine .bind (Store.Client.ensures_transaction _ _ ?_ (fun error _ => .raised error))
          intro _ reported stored
          have storedReport := reportStored platform draws report _ _ _ stored
          refine .bind (Store.Client.ensures_ofExcept _ ?_)
          cases built : buildHostSummary context.workUnit envelope report (draws.utcText 2) with
          | error error => exact .reported envelope context report reported error verified storedReport
          | ok summary =>
            refine .bind (Store.Client.ensures_transaction _ _ ?_ (fun error _ =>
              .reported envelope context report reported error verified storedReport))
            intro _ last kept
            exact Store.Client.ensures_pure _ (Store.Client.ensures_pure _
              (.summarised envelope context report summary reported last verified storedReport built
                (summaryStored platform draws summary _ _ _ kept)))

namespace Finalized

variable {platform : ResultsPlatform} {draws : Draws} {resultEnvelopeId : String}
  {plane left : ResultsPlane} {result : Except Raised (Option (VerifierReport × HostResultSummary))}

/-- A finalization changes nothing else but the outbox. -/
theorem host (finalized : Finalized platform draws resultEnvelopeId plane result left) :
    ∃ outbox, left.host = (plane.withEvents outbox).host := by
  cases finalized with
  | skipped => exact ⟨plane.db.eventOutbox, rfl⟩
  | raised error => exact ⟨plane.db.eventOutbox, rfl⟩
  | reported envelope context report left error verified stored => exact stored.host
  | summarised envelope context report summary reported left verified stored built kept =>
    obtain ⟨first, same_host⟩ := stored.host
    obtain ⟨second, later_host⟩ := kept.host
    refine ⟨second, later_host.trans ?_⟩
    simp only [ResultsPlane.withEvents, ResultsPlane.dbPart, ResultsPlane.db, same_host]
    rfl

/-- A finalization writes one summary, or none. -/
theorem summaries (finalized : Finalized platform draws resultEnvelopeId plane result left) :
    left.hostResultSummaries = plane.hostResultSummaries ∨
      ∃ envelope context report summary,
        Verified platform draws resultEnvelopeId plane envelope context report ∧
        buildHostSummary context.workUnit envelope report (draws.utcText 2) = .ok summary ∧
        left.hostResultSummaries = plane.hostResultSummaries.upsert (summaryId platform summary)
          (hostSummaryRow summary) (rewriteSummary summary) := by
  cases finalized with
  | skipped => exact .inl rfl
  | raised error => exact .inl rfl
  | reported envelope context report left error verified stored => exact .inl stored.summaries
  | summarised envelope context report summary reported left verified stored built kept =>
    exact .inr ⟨envelope, context, report, summary, verified, built,
      stored.summaries ▸ kept.summaries⟩

/-- A finalization writes one report, or none. -/
theorem reports (finalized : Finalized platform draws resultEnvelopeId plane result left) :
    left.verifierReports = plane.verifierReports ∨
      ∃ envelope context report,
        Verified platform draws resultEnvelopeId plane envelope context report ∧
        left.verifierReports = plane.verifierReports.upsert report.verifierReportId
          (verifierReportRow report) (rewriteReport report) := by
  cases finalized with
  | skipped => exact .inl rfl
  | raised error => exact .inl rfl
  | reported envelope context report left error verified stored =>
    exact .inr ⟨envelope, context, report, verified, stored.reports⟩
  | summarised envelope context report summary reported left verified stored built kept =>
    exact .inr ⟨envelope, context, report, verified, kept.reports.trans stored.reports⟩

end Finalized

/-- Asking for a summary changes nothing if one is stored, or if there is no result; otherwise
it finalizes the result stored last. -/
theorem getHostResultSummary_ensures (platform : ResultsPlatform) (draws : Draws)
    (workUnitId : String) (plane : ResultsPlane) :
    Store.Client.Ensures (getHostResultSummary platform draws workUnitId) plane
      (fun result left => match latestSummary plane workUnitId with
        | some (_, row) => result = .ok (some row.body) ∧ left = plane
        | none => match latestResult plane.db workUnitId with
          | none => result = .ok none ∧ left = plane
          | some (resultEnvelopeId, _) => ∃ finalized,
            Finalized platform draws resultEnvelopeId plane finalized left ∧
            result = finalized.map (fun outcome =>
              outcome.map (fun finalized => .obj finalized.2.modelDump))) := by
  refine .bind (Store.Client.ensures_fetch _ ?_)
  dsimp only
  generalize latestSummary plane workUnitId = stored
  cases stored with
  | some stored => exact Store.Client.ensures_pure _ ⟨rfl, rfl⟩
  | none =>
    refine .bind (Store.Client.ensures_fetch _ ?_)
    dsimp only
    generalize latestResult plane.db workUnitId = last
    cases last with
    | none => exact Store.Client.ensures_pure _ ⟨rfl, rfl⟩
    | some last =>
      refine .bind ((finalizeUrlCheckResult_ensures platform draws last.1 plane).mono ?_)
      intro result left ends
      cases result with
      | error error => exact ⟨.error error, ends, rfl⟩
      | ok outcome => exact Store.Client.ensures_pure _ ⟨.ok outcome, ends, rfl⟩

/-! ## Finalizations that return -/

/-- There is no context of a work unit whose task type cannot be finalized. -/
theorem contextOf_unsupported (platform : ResultsPlatform) (plane : ResultsPlane)
    (unsupported : ∀ key row, plane.host.workUnitDetails.find? key = some row →
      supportedTask row.body = none) (workUnitId : String) :
    contextOf platform plane workUnitId = .ok none := by
  simp only [contextOf]
  split
  · rename_i found _ _
    rw [supportedContext, unsupported _ _ found]
  · rfl

/-- Without a context a finalization returns none, and changes nothing. -/
theorem finalizeUrlCheckResult_skipped (platform : ResultsPlatform) (draws : Draws)
    (resultEnvelopeId : String) (plane : ResultsPlane)
    (without : ∀ workUnitId, contextOf platform plane workUnitId = .ok none) :
    (finalizeUrlCheckResult platform draws resultEnvelopeId).run plane = (.ok none, plane) := by
  have ensured : Store.Client.Ensures (finalizeUrlCheckResult platform draws resultEnvelopeId) plane
      (fun result left => result = .ok none ∧ left = plane) := by
    refine .bind (Store.Client.ensures_fetch _ ?_)
    dsimp only
    split
    · exact Store.Client.ensures_pure _ ⟨rfl, rfl⟩
    · rename_i envelope _
      refine .bind ((loadSupportedContext_ensures platform plane envelope.workUnitId).mono ?_)
      rintro result left ⟨loaded, rfl⟩
      rw [without] at loaded
      subst loaded
      exact Store.Client.ensures_pure _ ⟨rfl, rfl⟩
  exact Prod.ext ensured.run.1 ensured.run.2

/-- An event is enqueued if its id is new, and all other events stay. -/
theorem enqueueIn_returns {τ : Type} (part : Store.Part τ Db) (event : OutboxEventInput)
    (createdAt : String) (store : τ)
    (unused : (part.read store).eventOutbox.find? event.eventId = none) :
    ∃ outbox, (enqueueIn part event createdAt).run store =
        .ok ((), part.replace store { part.read store with eventOutbox := outbox }) ∧
      ∀ eventId, eventId ≠ event.eventId →
        outbox.find? eventId = (part.read store).eventOutbox.find? eventId := by
  let row := Outbox.pendingRow event (Outbox.nextSequence (part.read store).eventOutbox) createdAt
  have inserted := Store.Table.upsert_absent (part.read store).eventOutbox event.eventId row id unused
  refine ⟨(part.read store).eventOutbox.upsert event.eventId row id, ?_, fun eventId other => ?_⟩
  · have stored := (Db.inserting_ok_iff "event_outbox.event_id" true _ _ _ _).mpr ⟨inserted, rfl⟩
    simp only [enqueueIn, Store.Block.run_bind_ok, Store.Block.run_fetch_ok, Store.Block.run_put_ok]
    refine ⟨_, store, ⟨rfl, rfl⟩, ?_⟩
    rw [Outbox.insertPending_next, stored]
    rfl
  · rw [Store.Table.find?_insert _ _ _ _ inserted, if_neg other]

/-- The results of checks are written once the report is there. -/
theorem putCheckResults_returns (platform : ResultsPlatform) (report : VerifierReport)
    (index : Nat) (checks : List VerifierCheckResult) (plane : ResultsPlane)
    (reported : (plane.verifierReports.find? report.verifierReportId).isSome = true) :
    ∃ after, (putCheckResults platform report index checks).run plane = .ok ((), after) := by
  induction checks generalizing index plane with
  | nil => exact ⟨plane, rfl⟩
  | cons check rest inductionHypothesis =>
    have written : ∃ results, putCheckResult platform report index check plane =
        .ok { plane with verifierCheckResults := results } := by
      simp only [putCheckResult]
      cases found : plane.verifierCheckResults.find? (checkResultId platform report index check) with
      | some row => exact ⟨_, rfl⟩
      | none =>
        have inserted := Store.Table.upsert_absent plane.verifierCheckResults
          (checkResultId platform report index check)
          ⟨report.verifierReportId, check.status.text, check.modelDump, report.createdAt⟩ id found
        have stored := (Db.inserting_ok_iff "verifier_check_results.check_result_id" _ _ _ _ _).mpr
          ⟨inserted, reported⟩
        refine ⟨plane.verifierCheckResults.upsert (checkResultId platform report index check)
          ⟨report.verifierReportId, check.status.text, check.modelDump, report.createdAt⟩ id, ?_⟩
        simp only [Option.isSome_none, Bool.false_eq_true, if_false, stored]
        rfl
    obtain ⟨results, put⟩ := written
    obtain ⟨after, later⟩ :=
      inductionHypothesis (index + 1) { plane with verifierCheckResults := results } reported
    refine ⟨after, ?_⟩
    simp only [putCheckResults, Store.Block.run_bind_ok, Store.Block.run_put_ok]
    exact ⟨(), _, put, later⟩

/-- A report is stored if its work unit and its result are there and its event is new. -/
theorem persistVerifierReport_returns (platform : ResultsPlatform) (draws : Draws)
    (report : VerifierReport) (plane : ResultsPlane)
    (workUnit : (plane.db.workUnits.find? report.workUnitId).isSome = true)
    (result : (plane.db.resultEnvelopes.find? report.resultEnvelopeId).isSome = true)
    (unused : plane.db.eventOutbox.find? ("evt_" ++ draws.uuid 1) = none) :
    ∃ after, (persistVerifierReportWrites platform draws report).run plane = .ok ((), after) ∧
      ∀ eventId, eventId ≠ "evt_" ++ draws.uuid 1 →
        after.db.eventOutbox.find? eventId = plane.db.eventOutbox.find? eventId := by
  let written : ResultsPlane :=
    { plane with
      verifierReports := plane.verifierReports.upsert report.verifierReportId
        (verifierReportRow report) (rewriteReport report) }
  have put : putVerifierReport report plane = .ok written := by
    unfold putVerifierReport
    cases found : plane.verifierReports.find? report.verifierReportId with
    | some row =>
      simp only [written, Option.isSome_some, if_true]
      rw [Store.Table.upsert_present _ _ _ _ (by simp [found])]
      rfl
    | none =>
      have inserted := Store.Table.upsert_absent plane.verifierReports report.verifierReportId
        (verifierReportRow report) (rewriteReport report) found
      have stored := (Db.inserting_ok_iff "verifier_reports.verifier_report_id" true _ _ _ _).mpr
        ⟨inserted, rfl⟩
      rw [verifierReportRow] at stored
      simp only [Option.isSome_none, Bool.false_eq_true, if_false, workUnit, result, Bool.and_true,
        stored]
      rfl
  have reported : (written.verifierReports.find? report.verifierReportId).isSome = true := by
    simp [written, Store.Table.find?_upsert]
  obtain ⟨checked, checks⟩ :=
    putCheckResults_returns platform report 0 report.checks written reported
  obtain ⟨results, rfl⟩ := putCheckResults_ok platform report 0 report.checks _ _ _ checks
  obtain ⟨outbox, enqueued, others⟩ := enqueueIn_returns ResultsPlane.dbPart
    (verifierReportEvent draws report) (draws.utcText 1)
    { written with verifierCheckResults := results } unused
  refine ⟨ResultsPlane.withEvents { written with verifierCheckResults := results } outbox, ?_,
    others⟩
  simp only [persistVerifierReportWrites, Store.Block.run_bind_ok, Store.Block.run_put_ok]
  exact ⟨(), written, put, (), { written with verifierCheckResults := results }, checks, enqueued⟩

/-- A summary is stored if its work unit is there and its event is new. -/
theorem persistHostResultSummary_returns (platform : ResultsPlatform) (draws : Draws)
    (summary : HostResultSummary) (plane : ResultsPlane)
    (workUnit : (plane.db.workUnits.find? summary.workUnitId).isSome = true)
    (unused : plane.db.eventOutbox.find? ("evt_" ++ draws.uuid 3) = none) :
    ∃ after, (persistHostResultSummaryWrites platform draws summary).run plane = .ok ((), after) ∧
      ∀ eventId, eventId ≠ "evt_" ++ draws.uuid 3 →
        after.db.eventOutbox.find? eventId = plane.db.eventOutbox.find? eventId := by
  let written : ResultsPlane :=
    { plane with
      hostResultSummaries := plane.hostResultSummaries.upsert (summaryId platform summary)
        (hostSummaryRow summary) (rewriteSummary summary) }
  have put : putHostResultSummary platform summary plane = .ok written := by
    simp only [putHostResultSummary]
    cases found : plane.hostResultSummaries.find? (summaryId platform summary) with
    | some row =>
      simp only [written, Option.isSome_some, if_true]
      rw [Store.Table.upsert_present _ _ _ _ (by simp [found])]
      rfl
    | none =>
      have inserted := Store.Table.upsert_absent plane.hostResultSummaries
        (summaryId platform summary) (hostSummaryRow summary) (rewriteSummary summary) found
      have stored := (Db.inserting_ok_iff "host_result_summaries.host_result_summary_id" true
        _ _ _ _).mpr ⟨inserted, rfl⟩
      rw [hostSummaryRow] at stored
      simp only [Option.isSome_none, Bool.false_eq_true, if_false, workUnit, stored]
      rfl
  obtain ⟨outbox, enqueued, others⟩ := enqueueIn_returns ResultsPlane.dbPart
    (hostResultSummaryEvent platform draws summary) (draws.utcText 3) written unused
  refine ⟨written.withEvents outbox, ?_, others⟩
  simp only [persistHostResultSummaryWrites, Store.Block.run_bind_ok, Store.Block.run_put_ok]
  exact ⟨(), written, put, enqueued⟩

/-- A finalization whose report and summary are made returns them, if the work unit and the
result are there and its events are new. No other event is touched. -/
theorem finalizeUrlCheckResult_returns (platform : ResultsPlatform) (draws : Draws)
    (resultEnvelopeId : String) (plane : ResultsPlane) (envelope : WorkUnitResultEnvelope)
    (context : SupportedContext) (report : VerifierReport) (summary : HostResultSummary)
    (verified : Verified platform draws resultEnvelopeId plane envelope context report)
    (built : buildHostSummary context.workUnit envelope report (draws.utcText 2) = .ok summary)
    (unit : (plane.db.workUnits.find? envelope.workUnitId).isSome = true)
    (result : (plane.db.resultEnvelopes.find? envelope.resultEnvelopeId).isSome = true)
    (same_unit : context.workUnit.workUnitId = envelope.workUnitId)
    (distinct : draws.uuid 3 ≠ draws.uuid 1)
    (firstUnused : plane.db.eventOutbox.find? ("evt_" ++ draws.uuid 1) = none)
    (secondUnused : plane.db.eventOutbox.find? ("evt_" ++ draws.uuid 3) = none) :
    ∃ left, (finalizeUrlCheckResult platform draws resultEnvelopeId).run plane =
        (.ok (some (report, summary)), left) ∧
      ∀ eventId, eventId ≠ "evt_" ++ draws.uuid 1 → eventId ≠ "evt_" ++ draws.uuid 3 →
        left.db.eventOutbox.find? eventId = plane.db.eventOutbox.find? eventId := by
  obtain ⟨reportUnit, reportResult⟩ := verified.names
  obtain ⟨summaryUnit, -, -⟩ := built_summary built
  obtain ⟨reported, storedReport, firstOthers⟩ := persistVerifierReport_returns platform draws
    report plane (by rw [reportUnit]; exact unit) (by rw [reportResult]; exact result) firstUnused
  obtain ⟨outbox, same_host⟩ := (reportStored platform draws report _ _ _ storedReport).host
  have same_db : reported.db = { plane.db with eventOutbox := outbox } := by
    rw [ResultsPlane.db, same_host]
    rfl
  have later : reported.db.eventOutbox.find? ("evt_" ++ draws.uuid 3) = none :=
    (firstOthers _ (fun same => distinct ((String.append_right_inj "evt_").mp same))).trans
      secondUnused
  obtain ⟨left, storedSummary, secondOthers⟩ := persistHostResultSummary_returns platform draws
    summary reported (by rw [same_db, summaryUnit, same_unit]; exact unit) later
  have ensured : Store.Client.Ensures (finalizeUrlCheckResult platform draws resultEnvelopeId) plane
      (fun result last => result = .ok (some (report, summary)) ∧ last = left) := by
    refine .bind (Store.Client.ensures_fetch _ ?_)
    have read := verified.read
    unfold storedEnvelope at read
    simp only [read]
    refine .bind ((loadSupportedContext_ensures platform plane envelope.workUnitId).mono ?_)
    rintro result between ⟨loaded, rfl⟩
    rw [verified.supported] at loaded
    subst loaded
    refine .bind (.bind (Store.Client.ensures_ofExcept _ ?_))
    rw [verified.ran]
    refine .bind (Store.Client.ensures_transaction _ _ ?_ ?_)
    · intro _ changed stored
      have same_stored := storedReport.symm.trans stored
      cases same_stored
      refine .bind (Store.Client.ensures_ofExcept _ ?_)
      rw [built]
      refine .bind (Store.Client.ensures_transaction _ _ ?_ ?_)
      · intro _ last kept
        have same_left := storedSummary.symm.trans kept
        cases same_left
        exact Store.Client.ensures_pure _ (Store.Client.ensures_pure _ ⟨rfl, rfl⟩)
      · intro error failed
        rw [storedSummary] at failed
        cases failed
    · intro error failed
      rw [storedReport] at failed
      cases failed
  refine ⟨left, Prod.ext ensured.run.1 ensured.run.2, fun eventId notFirst notSecond => ?_⟩
  exact (secondOthers eventId notSecond).trans (firstOthers eventId notFirst)

end Host

end TokenBank
