import TokenBank.Guarantees.Recommendations
import TokenBank.Guarantees.StoredResults

/-!
# Which result a host sees

A host is shown the summary that was created last, whichever attempt it is of. It stays that
of a result of the newest attempt as long as results are finalized in order: a summary of the
newest attempt is created after all others, and one of an older attempt not after it. A late
result that is finalized after the newest one takes over, although it is quarantined.
-/

namespace TokenBank

open Host

namespace HostResults

/-- The result is one of the newest attempt of a work unit. -/
def NewestResult (db : Db) (workUnitId resultEnvelopeId : String) : Prop :=
  ∃ row ∈ db.resultEnvelopes.find? resultEnvelopeId, row.workUnitId = workUnitId ∧
    ∃ attempt ∈ db.executionAttempts.find? row.attemptId,
      Scheduler.newerAttemptExists db workUnitId attempt.attemptNumber = false
  deriving Decidable

/-- The result that a summary names. -/
def traceRef (body : Json) : Option String :=
  match Json.get (jsonObject body) "trace_ref" with
  | .str text => some text
  | _ => none

/-- The summaries of a work unit, in the order they were filed. -/
def summariesOf (plane : ResultsPlane) (workUnitId : String) : List (String × HostSummaryRow) :=
  plane.hostResultSummaries.select (fun _ row => decide (row.workUnitId = workUnitId))

/-- A result of a work unit has been summarised. -/
def Summarised (plane : ResultsPlane) (workUnitId resultEnvelopeId : String) : Prop :=
  ∃ entry ∈ summariesOf plane workUnitId, traceRef entry.2.body = some resultEnvelopeId

/-- A summary is of a result of the newest attempt of its work unit. -/
def OfNewest (db : Db) (row : HostSummaryRow) : Prop :=
  ∃ resultEnvelopeId ∈ traceRef row.body, NewestResult db row.workUnitId resultEnvelopeId

/-- The recommendations a verifier makes. -/
def recommendations : List VerifierRecommendation :=
  [.accept, .acceptWithWarning, .retry, .fallback, .reject, .quarantine]

/-- The id under which a result is summarised after a recommendation. -/
def summaryKey (platform : ResultsPlatform) (workUnitId resultEnvelopeId : String)
    (recommendation : VerifierRecommendation) : String :=
  "hrs_" ++ platform.shortHash (.obj [("work_unit_id", .str workUnitId),
    ("trace_ref", .str resultEnvelopeId), ("recommendation", .str recommendation.text)])

/-- A result's summaries do not go by the id of another result's. -/
def Unmistaken (platform : ResultsPlatform) (plane : ResultsPlane)
    (workUnitId resultEnvelopeId : String) : Prop :=
  ∀ recommendation ∈ recommendations,
    ∀ row ∈ plane.hostResultSummaries.find? (summaryKey platform workUnitId resultEnvelopeId
      recommendation), row.workUnitId = workUnitId ∧ traceRef row.body = some resultEnvelopeId

/-- A result that is finalized at a time comes in order: after all summaries if it is the first
one of the newest attempt, and not after a summary of the newest attempt if it is of an older
one. -/
def ComesInOrder (plane : ResultsPlane) (workUnitId resultEnvelopeId createdAt : String) : Prop :=
  (NewestResult plane.db workUnitId resultEnvelopeId →
    (∀ entry ∈ summariesOf plane workUnitId, ¬ OfNewest plane.db entry.2) →
      ∀ entry ∈ summariesOf plane workUnitId, entry.2.createdAt < createdAt) ∧
  (¬ NewestResult plane.db workUnitId resultEnvelopeId →
    (∃ entry ∈ summariesOf plane workUnitId, OfNewest plane.db entry.2) →
      ∃ entry ∈ summariesOf plane workUnitId, OfNewest plane.db entry.2 ∧
        createdAt ≤ entry.2.createdAt)

/-- A result that is an envelope is finalized in order, and without mistaking a summary. -/
def Orderly (platform : ResultsPlatform) (plane : ResultsPlane)
    (resultEnvelopeId createdAt : String) : Prop :=
  ∀ envelope ∈ storedEnvelope platform plane.db resultEnvelopeId,
    Unmistaken platform plane envelope.workUnitId resultEnvelopeId ∧
      ComesInOrder plane envelope.workUnitId resultEnvelopeId createdAt

/-- A call finalizes results in order. Only a finalization has to: asking for a summary
finalizes a result only where there is no summary yet. -/
def InOrder (platform : ResultsPlatform) (plane : ResultsPlane) : ResultOp → Prop
  | .finalize draws resultEnvelopeId => Orderly platform plane resultEnvelopeId (draws.utcText 2)
  | .getSummary _ workUnitId => ∀ entry ∈ latestResult plane.db workUnitId,
    Unmistaken platform plane workUnitId entry.1
  | _ => True

/-- Every summary names a stored result of its work unit. -/
def Traced (plane : ResultsPlane) : Prop :=
  ∀ key row, plane.hostResultSummaries.find? key = some row →
    ∃ resultEnvelopeId result, traceRef row.body = some resultEnvelopeId ∧
      plane.db.resultEnvelopes.find? resultEnvelopeId = some result ∧
      result.workUnitId = row.workUnitId

/-- Where a result of the newest attempt has been summarised, the summary shown is of one. -/
def Answered (plane : ResultsPlane) : Prop :=
  ∀ workUnitId, (∃ entry ∈ summariesOf plane workUnitId, OfNewest plane.db entry.2) →
    ∃ entry, latestSummary plane workUnitId = some entry ∧ OfNewest plane.db entry.2

/-! ## The newest attempt -/

/-- Which results are of the newest attempt depends on the results and attempts only. -/
theorem newestResult_congr {before after : Db}
    (attempts : after.executionAttempts = before.executionAttempts)
    (results : after.resultEnvelopes = before.resultEnvelopes)
    (workUnitId resultEnvelopeId : String) :
    NewestResult after workUnitId resultEnvelopeId ↔
      NewestResult before workUnitId resultEnvelopeId := by
  simp only [NewestResult, Scheduler.newerAttemptExists, Scheduler.attemptNumbers, attempts, results]

/-- Which results are of the newest attempt does not depend on events. -/
theorem newestResult_outbox (db : Db) (outbox : Store.Table String EventRow)
    (workUnitId resultEnvelopeId : String) :
    NewestResult { db with eventOutbox := outbox } workUnitId resultEnvelopeId ↔
      NewestResult db workUnitId resultEnvelopeId := newestResult_congr rfl rfl _ _

/-- Which summaries are of the newest attempt depends on the results and attempts only. -/
theorem ofNewest_congr {before after : Db}
    (attempts : after.executionAttempts = before.executionAttempts)
    (results : after.resultEnvelopes = before.resultEnvelopes) (row : HostSummaryRow) :
    OfNewest after row ↔ OfNewest before row := by
  simp only [OfNewest, newestResult_congr attempts results]

/-- The number of an attempt of a work unit is one of the work unit's numbers. -/
theorem mem_attemptNumbers {db : Db} {workUnitId attemptId : String} {attempt : AttemptRow}
    (found : db.executionAttempts.find? attemptId = some attempt)
    (unit : attempt.workUnitId = workUnitId) :
    attempt.attemptNumber ∈ Scheduler.attemptNumbers db workUnitId :=
  List.mem_filterMap.mpr ⟨(attemptId, attempt),
    (Store.Table.mem_entries_iff _ _ _).mpr found, if_pos unit⟩

/-- No attempt is newer exactly if no number is greater. -/
theorem newerAttemptExists_false_iff (db : Db) (workUnitId : String) (attemptNumber : Nat) :
    Scheduler.newerAttemptExists db workUnitId attemptNumber = false ↔
      ∀ number ∈ Scheduler.attemptNumbers db workUnitId, number ≤ attemptNumber := by
  simp [Scheduler.newerAttemptExists]

section Scheduled

variable {platform : ResultsPlatform} {plane : ResultsPlane} {plan : Plan} {reply : Reply}
  {after : Db} (sound : StoredSoundly platform plane)
  (performed : Performed platform.scheduler plane.db plan reply after)

include performed in
/-- A stored result stays what it is when a plan is performed. -/
theorem result_kept {key : String} {row : ResultEnvelopeRow}
    (found : plane.db.resultEnvelopes.find? key = some row) :
    after.resultEnvelopes.find? key = some row := by
  rw [performed.resultEnvelopes key]
  cases filed : plan.newResult key with
  | none => exact found
  | some other =>
    have absent := performed.newResult_absent key other filed
    exact absurd (absent.symm.trans found) (by simp)

include sound performed in
/-- The attempt of a stored result, before and after a plan is performed. -/
theorem attempt_of_result {key : String} {row : ResultEnvelopeRow}
    (found : plane.db.resultEnvelopes.find? key = some row) :
    ∃ attempt later, plane.db.executionAttempts.find? row.attemptId = some attempt ∧
      attempt.workUnitId = row.workUnitId ∧
      after.executionAttempts.find? row.attemptId = some later ∧
      later.attemptNumber = attempt.attemptNumber := by
  obtain ⟨attempt, attempted, unit⟩ := sound.results key row found
  obtain ⟨later, kept, -, number⟩ := performed.evolves.attempts row.attemptId attempt attempted
  exact ⟨attempt, later, attempted, unit, kept, number⟩

include sound performed in
/-- A stored result that is of the newest attempt afterwards was so before, and its attempt
has the greatest number. -/
theorem newest_before {workUnitId key : String} {row : ResultEnvelopeRow}
    (found : plane.db.resultEnvelopes.find? key = some row)
    (newest : NewestResult after workUnitId key) :
    NewestResult plane.db workUnitId key ∧
      ∃ number ∈ Scheduler.attemptNumbers plane.db workUnitId,
        ∀ other ∈ Scheduler.attemptNumbers after workUnitId, other ≤ number := by
  obtain ⟨stored, kept, unit, last, lastFound, greatest⟩ := newest
  have same_row := Option.some.inj ((result_kept performed found).symm.trans kept)
  subst same_row
  obtain ⟨attempt, later, attempted, attemptUnit, laterFound, number⟩ :=
    attempt_of_result sound performed found
  have same_attempt := Option.some.inj (laterFound.symm.trans lastFound)
  subst same_attempt
  rw [newerAttemptExists_false_iff, number] at greatest
  refine ⟨⟨row, found, unit, attempt, attempted, ?_⟩, attempt.attemptNumber,
    mem_attemptNumbers attempted (attemptUnit.trans unit), greatest⟩
  rw [newerAttemptExists_false_iff]
  intro other member
  apply greatest
  rw [performed.attemptNumbers workUnitId]
  exact List.mem_append_left _ member

include sound performed in
/-- A result of the newest attempt stays one as long as no number is greater than all of those
before. -/
theorem newest_after {workUnitId key : String} (newest : NewestResult plane.db workUnitId key)
    (bounded : ∃ number ∈ Scheduler.attemptNumbers plane.db workUnitId,
      ∀ other ∈ Scheduler.attemptNumbers after workUnitId, other ≤ number) :
    NewestResult after workUnitId key := by
  obtain ⟨row, found, unit, attempt, attempted, greatest⟩ := newest
  obtain ⟨number, among, bounds⟩ := bounded
  obtain ⟨stored, later, storedFound, -, laterFound, same_number⟩ :=
    attempt_of_result sound performed found
  have same_attempt := Option.some.inj (attempted.symm.trans storedFound)
  subst same_attempt
  rw [newerAttemptExists_false_iff] at greatest
  refine ⟨row, result_kept performed found, unit, later, laterFound, ?_⟩
  rw [newerAttemptExists_false_iff, same_number]
  intro other member
  exact (bounds other member).trans (greatest number among)

include sound performed in
/-- Performing a plan leaves the answers right. -/
theorem answered_performed (traced : Traced plane) (answered : Answered plane) :
    Answered (ResultsPlane.dbPart.replace plane after) := by
  rintro workUnitId ⟨entry, listed, key, named, newest⟩
  have inTable := (Store.Table.mem_entries_iff _ _ _).mp (List.mem_filter.mp listed).1
  have unit : entry.2.workUnitId = workUnitId := by
    simpa using (List.mem_filter.mp listed).2
  obtain ⟨other, result, sameName, found, -⟩ := traced entry.1 entry.2 inTable
  have same_key := Option.some.inj (sameName.symm.trans named)
  subst same_key
  obtain ⟨before, bounded⟩ := newest_before sound performed found newest
  obtain ⟨shown, latest, shownKey, shownNamed, shownNewest⟩ :=
    answered workUnitId ⟨entry, listed, other, named, before⟩
  have shownUnit : shown.2.workUnitId = workUnitId := by
    simpa using (List.mem_filter.mp (Store.newest_spec _ _ _ latest).1).2
  refine ⟨shown, latest, shownKey, shownNamed, ?_⟩
  rw [unit] at bounded
  rw [shownUnit] at shownNewest ⊢
  exact newest_after sound performed shownNewest bounded

end Scheduled

/-! ## Writing a summary -/

/-- A stored envelope is read under its own id, and for the work unit of its row. -/
theorem storedEnvelope_some {platform : ResultsPlatform} {plane : ResultsPlane}
    (sound : StoredSoundly platform plane) {resultEnvelopeId : String}
    {envelope : WorkUnitResultEnvelope}
    (read : storedEnvelope platform plane.db resultEnvelopeId = some envelope) :
    envelope.resultEnvelopeId = resultEnvelopeId ∧
      ∃ row, plane.db.resultEnvelopes.find? resultEnvelopeId = some row ∧
        row.workUnitId = envelope.workUnitId := by
  obtain ⟨row, found, parsed⟩ := Option.bind_eq_some_iff.mp read
  obtain ⟨same_id, unit⟩ := sound.bodies resultEnvelopeId row envelope found parsed
  exact ⟨same_id, row, found, unit.symm⟩

/-- A context is that of the work unit it was read for. -/
theorem context_workUnit {platform : ResultsPlatform} {plane : ResultsPlane}
    (sound : StoredSoundly platform plane) {workUnitId : String} {context : SupportedContext}
    (supported : contextOf platform plane workUnitId = .ok (some context)) :
    context.workUnit.workUnitId = workUnitId := by
  unfold contextOf at supported
  dsimp only at supported
  split at supported
  · rename_i details _ _ _ _ found _ _
    unfold supportedContext at supported
    split at supported
    · cases supported
    · split at supported
      · simp only [Store.bind_ok_iff] at supported
        obtain ⟨workUnit, parsed, -, -, decision, -, returned⟩ := supported
        have same_context := Option.some.inj (Except.ok.inj returned)
        subst same_context
        exact sound.details workUnitId details workUnit found parsed
      · cases supported
  · cases supported

/-- A summary is written: it names its result, is filed under a key made from the result, and
only its document replaces that of a summary under the same key. -/
structure Wrote (platform : ResultsPlatform) (plane left : ResultsPlane)
    (resultEnvelopeId createdAt workUnitId key : String) (runId : String) (body : Json) : Prop where
  keyed : ∃ recommendation ∈ recommendations,
    key = summaryKey platform workUnitId resultEnvelopeId recommendation
  named : traceRef body = some resultEnvelopeId
  stored : ∃ row, plane.db.resultEnvelopes.find? resultEnvelopeId = some row ∧
    row.workUnitId = workUnitId
  summaries : left.hostResultSummaries = plane.hostResultSummaries.upsert key
    ⟨workUnitId, runId, body, createdAt⟩ (fun row => { row with body := body })

/-- A summary that is stored after the verifier has run is written so. -/
theorem verified_wrote {platform : ResultsPlatform} {plane left : ResultsPlane} {draws : Draws}
    {resultEnvelopeId : String} {envelope : WorkUnitResultEnvelope} {context : SupportedContext}
    {report : VerifierReport} {summary : HostResultSummary} (sound : StoredSoundly platform plane)
    (verified : Verified platform draws resultEnvelopeId plane envelope context report)
    (built : buildHostSummary context.workUnit envelope report (draws.utcText 2) = .ok summary)
    (summaries : left.hostResultSummaries = plane.hostResultSummaries.upsert
      (summaryId platform summary) (hostSummaryRow summary) (rewriteSummary summary)) :
    summary.workUnitId = envelope.workUnitId ∧
      Wrote platform plane left resultEnvelopeId (draws.utcText 2) envelope.workUnitId
        (summaryId platform summary) summary.runId (.obj summary.modelDump) := by
  obtain ⟨same_id, stored⟩ := storedEnvelope_some sound verified.read
  have unit := context_workUnit sound verified.supported
  obtain ⟨summaryUnit, trace, generated⟩ := built_summary built
  rw [same_id] at trace
  rw [unit] at summaryUnit
  refine ⟨summaryUnit, ⟨summary.verifierRecommendation, ?_, ?_⟩, ?_, stored, ?_⟩
  · cases summary.verifierRecommendation <;> simp [recommendations]
  · rw [summaryId, summaryUnit, trace]
    rfl
  · rw [← trace]
    rfl
  · rw [summaries, hostSummaryRow, summaryUnit, generated]
    rfl

/-- A finalization writes a summary of its result, or none. -/
theorem finalized_wrote {platform : ResultsPlatform} {plane left : ResultsPlane} {draws : Draws}
    {resultEnvelopeId : String}
    {result : Except Raised (Option (VerifierReport × HostResultSummary))}
    (sound : StoredSoundly platform plane)
    (ends : Finalized platform draws resultEnvelopeId plane result left) :
    left.hostResultSummaries = plane.hostResultSummaries ∨
      ∃ envelope key runId body,
        storedEnvelope platform plane.db resultEnvelopeId = some envelope ∧
        Wrote platform plane left resultEnvelopeId (draws.utcText 2) envelope.workUnitId key runId
          body := by
  rcases ends.summaries with
    same | ⟨envelope, context, report, summary, verified, built, summaries⟩
  · exact .inl same
  · exact .inr ⟨envelope, _, _, _, verified.read, (verified_wrote sound verified built summaries).2⟩

section Writing

variable {platform : ResultsPlatform} {plane left : ResultsPlane}
  {resultEnvelopeId createdAt workUnitId key runId : String} {body : Json}
  (wrote : Wrote platform plane left resultEnvelopeId createdAt workUnitId key runId body)
  (unmistaken : Unmistaken platform plane workUnitId resultEnvelopeId)

include wrote unmistaken in
/-- A summary whose document is replaced was of the same result. -/
theorem same_result {row : HostSummaryRow}
    (present : plane.hostResultSummaries.find? key = some row) :
    row.workUnitId = workUnitId ∧ traceRef row.body = some resultEnvelopeId := by
  obtain ⟨recommendation, listed, same_key⟩ := wrote.keyed
  exact unmistaken recommendation listed row (same_key ▸ present)

/-- A summary with its document replaced if it goes by a key. -/
def replaced (key : String) (body : Json) (entry : String × HostSummaryRow) :
    String × HostSummaryRow :=
  (entry.1, if entry.1 = key then { entry.2 with body := body } else entry.2)

include wrote in
/-- The summaries of a work unit afterwards: the same ones with one document replaced, or one
more. -/
theorem summariesOf_after (asked : String) :
    (plane.hostResultSummaries.find? key ≠ none ∧ summariesOf left asked =
        (summariesOf plane asked).map (replaced key body)) ∨
      (plane.hostResultSummaries.find? key = none ∧ summariesOf left asked =
        summariesOf plane asked ++
          if workUnitId = asked then [(key, ⟨workUnitId, runId, body, createdAt⟩)] else []) := by
  unfold summariesOf
  rw [wrote.summaries]
  by_cases absent : plane.hostResultSummaries.find? key = none
  · have inserted := Store.Table.upsert_absent plane.hostResultSummaries key
      ⟨workUnitId, runId, body, createdAt⟩ (fun row => { row with body := body }) absent
    refine .inr ⟨absent, ?_⟩
    rw [Store.Table.select_insert _ _ _ _ _ inserted]
    simp only [decide_eq_true_eq]
  · refine .inl ⟨absent, ?_⟩
    rw [Store.Table.upsert_present _ _ _ _ absent]
    exact Store.Table.select_modify _ _ _ _ (fun _ _ => rfl)

include wrote unmistaken in
/-- Replacing a document leaves the result that a summary names. -/
theorem traceRef_replaced {asked : String} {entry : String × HostSummaryRow}
    (listed : entry ∈ summariesOf plane asked) :
    traceRef (replaced key body entry).2.body = traceRef entry.2.body := by
  have found := (Store.Table.mem_entries_iff _ _ _).mp (List.mem_filter.mp listed).1
  unfold replaced
  split
  · rename_i same_key
    rw [same_key] at found
    rw [(same_result wrote unmistaken found).2]
    exact wrote.named
  · rfl

include wrote unmistaken in
/-- A result that was summarised stays so. -/
theorem summarised_after {asked other : String} (summarised : Summarised plane asked other) :
    Summarised left asked other := by
  obtain ⟨entry, listed, named⟩ := summarised
  rcases summariesOf_after wrote asked with ⟨-, same⟩ | ⟨-, grown⟩
  · exact ⟨replaced key body entry, same ▸ List.mem_map_of_mem listed,
      (traceRef_replaced wrote unmistaken listed).trans named⟩
  · exact ⟨entry, grown ▸ List.mem_append_left _ listed, named⟩

include wrote unmistaken in
/-- The result whose summary is written is summarised. -/
theorem wrote_summarised : Summarised left workUnitId resultEnvelopeId := by
  rcases summariesOf_after wrote workUnitId with ⟨present, same⟩ | ⟨-, grown⟩
  · obtain ⟨row, found⟩ := Option.ne_none_iff_exists'.mp present
    have listed : (key, row) ∈ summariesOf plane workUnitId :=
      List.mem_filter.mpr ⟨(Store.Table.mem_entries_iff _ _ _).mpr found,
        decide_eq_true (same_result wrote unmistaken found).1⟩
    refine ⟨replaced key body (key, row), same ▸ List.mem_map_of_mem listed, ?_⟩
    simp only [replaced, if_true]
    exact wrote.named
  · rw [if_pos rfl] at grown
    exact ⟨_, grown ▸ List.mem_append_right _ (List.mem_singleton.mpr rfl), wrote.named⟩

include wrote unmistaken in
/-- Every summary still names a stored result of its work unit. -/
theorem traced_after (results : left.db.resultEnvelopes = plane.db.resultEnvelopes)
    (traced : Traced plane) : Traced left := by
  intro other row found
  rw [results]
  rw [wrote.summaries, Store.Table.find?_upsert] at found
  split at found
  · cases present : plane.hostResultSummaries.find? key with
    | none =>
      rw [present] at found
      have same_row := Option.some.inj found
      subst same_row
      obtain ⟨result, stored, unit⟩ := wrote.stored
      exact ⟨resultEnvelopeId, result, wrote.named, stored, unit⟩
    | some earlier =>
      rw [present] at found
      have same_row := Option.some.inj found
      subst same_row
      obtain ⟨result, stored, unit⟩ := wrote.stored
      exact ⟨resultEnvelopeId, result, wrote.named, stored,
        unit.trans (same_result wrote unmistaken present).1.symm⟩
  · exact traced other row found

include wrote unmistaken in
/-- A summary that is written in order leaves the answers right. -/
theorem answered_after (ordered : ComesInOrder plane workUnitId resultEnvelopeId createdAt)
    (attempts : left.db.executionAttempts = plane.db.executionAttempts)
    (results : left.db.resultEnvelopes = plane.db.resultEnvelopes)
    (answered : Answered plane) : Answered left := by
  intro asked
  simp only [ofNewest_congr attempts results]
  rintro ⟨entry, listed, newest⟩
  have latest_left : latestSummary left asked = Store.newest (fun entry => entry.2.createdAt)
    (summariesOf left asked) := rfl
  rw [latest_left]
  rcases summariesOf_after wrote asked with ⟨-, same⟩ | ⟨-, grown⟩
  · rw [same] at listed ⊢
    have kept (stored : String × HostSummaryRow) (inPlane : stored ∈ summariesOf plane asked) :
        OfNewest plane.db (replaced key body stored).2 ↔ OfNewest plane.db stored.2 := by
      rw [OfNewest, OfNewest, traceRef_replaced wrote unmistaken inPlane]
      unfold replaced
      split <;> rfl
    obtain ⟨earlier, inPlane, rfl⟩ := List.mem_map.mp listed
    obtain ⟨shown, latest, shownNewest⟩ :=
      answered asked ⟨earlier, inPlane, (kept earlier inPlane).mp newest⟩
    refine ⟨replaced key body shown, ?_,
      (kept shown (Store.newest_spec _ _ _ latest).1).mpr shownNewest⟩
    rw [Store.newest_map]
    · exact congrArg (Option.map (replaced key body)) latest
    · intro stored
      unfold replaced
      split <;> rfl
  · rw [grown] at listed ⊢
    by_cases unit : workUnitId = asked
    · subst unit
      rw [if_pos rfl] at listed ⊢
      have new_iff : OfNewest plane.db ⟨workUnitId, runId, body, createdAt⟩ ↔
          NewestResult plane.db workUnitId resultEnvelopeId := by
        simp [OfNewest, wrote.named]
      by_cases new : NewestResult plane.db workUnitId resultEnvelopeId
      · by_cases before : ∃ entry ∈ summariesOf plane workUnitId, OfNewest plane.db entry.2
        · obtain ⟨shown, latest, shownNewest⟩ := answered workUnitId before
          have found : Store.newest (fun entry : String × HostSummaryRow => entry.2.createdAt)
            (summariesOf plane workUnitId) = some shown := latest
          rw [Store.newest_append, found]
          simp only
          split
          · exact ⟨_, rfl, new_iff.mpr new⟩
          · exact ⟨shown, rfl, shownNewest⟩
        · push Not at before
          exact ⟨_, Store.newest_taken _ _ _ (ordered.1 new before), new_iff.mpr new⟩
      · have before : ∃ entry ∈ summariesOf plane workUnitId, OfNewest plane.db entry.2 := by
          rcases List.mem_append.mp listed with old | added
          · exact ⟨entry, old, newest⟩
          · rw [List.mem_singleton.mp added] at newest
            exact absurd (new_iff.mp newest) new
        obtain ⟨shown, latest, shownNewest⟩ := answered workUnitId before
        obtain ⟨other, inPlane, -, bound⟩ := ordered.2 new before
        exact ⟨shown, Store.newest_kept _ _ _ _ latest ⟨other, inPlane, bound⟩, shownNewest⟩
    · rw [if_neg unit, List.append_nil] at listed ⊢
      exact answered asked ⟨entry, listed, newest⟩

end Writing

/-! ## Runs -/

/-- What stays true of summaries while results are finalized in order. -/
structure Kept (platform : ResultsPlatform) (plane : ResultsPlane) : Prop where
  sound : StoredSoundly platform plane
  traced : Traced plane
  answered : Answered plane

/-- Without summaries there is nothing to keep. -/
theorem kept_fresh {platform : ResultsPlatform} {plane : ResultsPlane}
    (fresh : FreshResults plane) : Kept platform plane where
  sound := fresh.soundly
  traced key row found := by
    rw [Store.Table.find?_of_entries_nil _ fresh.summaries] at found
    cases found
  answered workUnitId := by
    rintro ⟨entry, listed, -⟩
    have member := (List.mem_filter.mp listed).1
    rw [fresh.summaries] at member
    exact absurd member List.not_mem_nil

section Steps

variable {platform : ResultsPlatform} {plane left : ResultsPlane}

/-- Where summaries, results and attempts stay, so does what is kept of them. -/
theorem kept_unchanged (kept : Kept platform plane) (sound : StoredSoundly platform left)
    (attempts : left.db.executionAttempts = plane.db.executionAttempts)
    (results : left.db.resultEnvelopes = plane.db.resultEnvelopes)
    (summaries : left.hostResultSummaries = plane.hostResultSummaries) :
    Kept platform left ∧
      ∀ workUnitId other, Summarised plane workUnitId other → Summarised left workUnitId other := by
  refine ⟨⟨sound, ?_, ?_⟩, ?_⟩
  · intro key row found
    rw [results]
    exact kept.traced key row (summaries ▸ found)
  · intro workUnitId
    simp only [ofNewest_congr attempts results, summariesOf, latestSummary, summaries]
    exact kept.answered workUnitId
  · intro workUnitId other summarised
    rw [Summarised, summariesOf, summaries]
    exact summarised

/-- Finalizing a result in order keeps what is kept of summaries. -/
theorem kept_finalized {draws : Draws} {resultEnvelopeId : String}
    {result : Except Raised (Option (VerifierReport × HostResultSummary))}
    (kept : Kept platform plane)
    (ends : Finalized platform draws resultEnvelopeId plane result left)
    (orderly : Orderly platform plane resultEnvelopeId (draws.utcText 2)) :
    Kept platform left ∧
      ∀ workUnitId other, Summarised plane workUnitId other → Summarised left workUnitId other := by
  have sound := kept.sound.finalized ends
  obtain ⟨outbox, same_host⟩ := ends.host
  have same_db : left.db = { plane.db with eventOutbox := outbox } := by
    rw [ResultsPlane.db, same_host]
    rfl
  have attempts : left.db.executionAttempts = plane.db.executionAttempts := by rw [same_db]
  have results : left.db.resultEnvelopes = plane.db.resultEnvelopes := by rw [same_db]
  rcases finalized_wrote kept.sound ends with same | ⟨envelope, key, runId, body, read, wrote⟩
  · exact kept_unchanged kept sound attempts results same
  · obtain ⟨unmistaken, ordered⟩ := orderly envelope read
    exact ⟨⟨sound, traced_after wrote unmistaken results kept.traced,
      answered_after wrote unmistaken ordered attempts results kept.answered⟩,
      fun workUnitId other => summarised_after wrote unmistaken⟩

/-- The result that is finalized because there is no summary comes in order. -/
theorem orderly_asked {workUnitId resultEnvelopeId createdAt : String} {row : ResultEnvelopeRow}
    (sound : StoredSoundly platform plane) (unsummarised : latestSummary plane workUnitId = none)
    (last : latestResult plane.db workUnitId = some (resultEnvelopeId, row))
    (unmistaken : Unmistaken platform plane workUnitId resultEnvelopeId) :
    Orderly platform plane resultEnvelopeId createdAt := by
  intro envelope read
  have selected := List.mem_filter.mp (Store.newest_spec _ _ _ last).1
  have found := (Store.Table.mem_entries_iff _ _ _).mp selected.1
  have rowUnit : row.workUnitId = workUnitId := by simpa using selected.2
  obtain ⟨-, stored, storedFound, unit⟩ := storedEnvelope_some sound read
  have same_row := Option.some.inj (found.symm.trans storedFound)
  subst same_row
  have same_unit := unit.symm.trans rowUnit
  have empty : summariesOf plane workUnitId = [] :=
    (Store.newest_none_iff _ _).mp unsummarised
  rw [same_unit]
  refine ⟨unmistaken, ?_, ?_⟩
  · intro _ _ entry listed
    rw [empty] at listed
    cases listed
  · rintro - ⟨entry, listed, -⟩
    rw [empty] at listed
    cases listed

/-- Every call that finalizes results in order keeps what is kept of summaries. -/
theorem kept_step (keeps : platform.KeepsWorkUnits) (kept : Kept platform plane) (op : ResultOp)
    (supplied : op.Supplied platform) (inOrder : InOrder platform plane op) :
    Kept platform (ResultsPlane.step platform plane op) ∧
      ∀ workUnitId other, Summarised plane workUnitId other →
        Summarised (ResultsPlane.step platform plane op) workUnitId other := by
  have sound := kept.sound.step keeps op supplied
  have happened := ResultsPlane.step_happened platform plane op
  generalize ResultsPlane.step platform plane op = after at sound happened
  cases happened with
  | nothing => exact ⟨kept, fun _ _ summarised => summarised⟩
  | workUnit draws workUnit phase runs workUnits details outbox inserted described =>
    exact kept_unchanged kept sound rfl rfl rfl
  | routePlan op routePlan keys outbox stores => exact kept_unchanged kept sound rfl rfl rfl
  | policyDecision draws decision keys outbox => exact kept_unchanged kept sound rfl rfl rfl
  | scheduled op =>
    refine ⟨?_, fun _ _ summarised => summarised⟩
    rcases Scheduler.step_cases platform.scheduler op plane.db kept.sound.wellFormed with
      ⟨error, -, same⟩ | ⟨reply, plan, -, planned, performed⟩
    · rw [same]
      exact kept
    · refine ⟨sound, ?_, answered_performed kept.sound performed kept.traced kept.answered⟩
      intro key row found
      obtain ⟨other, result, named, stored, unit⟩ := kept.traced key row found
      exact ⟨other, result, named, result_kept performed stored, unit⟩
  | finalized draws resultEnvelopeId result left ends => exact kept_finalized kept ends inOrder
  | asked draws workUnitId resultEnvelopeId row result left unsummarised last ends =>
    have unmistaken : Unmistaken platform plane workUnitId resultEnvelopeId :=
      inOrder (resultEnvelopeId, row) last
    exact kept_finalized kept ends (orderly_asked kept.sound unsummarised last unmistaken)

/-- The host is shown the summary that was created last. -/
theorem shown_of_latest (draws : Draws) {workUnitId : String}
    {shown : String × HostSummaryRow} (latest : latestSummary plane workUnitId = some shown) :
    (getHostResultSummary platform draws workUnitId).run plane = (.ok (some shown.2.body), plane) := by
  have ends := (getHostResultSummary_ensures platform draws workUnitId plane).run
  simp only [latest] at ends
  exact Prod.ext ends.1 ends.2

/-- A finalization that returns has summarised its result. -/
theorem finalized_summarised {draws : Draws} {resultEnvelopeId : String} {report : VerifierReport}
    {summary : HostResultSummary} (kept : Kept platform plane)
    (orderly : Orderly platform plane resultEnvelopeId (draws.utcText 2))
    (ends : Finalized platform draws resultEnvelopeId plane (.ok (some (report, summary))) left) :
    Summarised left summary.workUnitId resultEnvelopeId := by
  cases ends with
  | summarised envelope context report summary reported left verified stored built shown =>
    obtain ⟨unit, wrote⟩ := verified_wrote kept.sound verified built
      (stored.summaries ▸ shown.summaries)
    rw [unit]
    exact wrote_summarised wrote (orderly envelope verified.read).1

end Steps

/-! ## The summary that is shown -/

/-- In every run that finalizes results in order, once a result of the newest attempt has been
summarised the host is shown the summary of one. -/
theorem newest_result_shown (platform : ResultsPlatform) (keeps : platform.KeepsWorkUnits)
    (initial : ResultsPlane) (fresh : FreshResults initial) (before after : List ResultOp)
    (supplied : ∀ op ∈ before ++ after, op.Supplied platform)
    (inOrder : Store.Along (ResultsPlane.step platform) (InOrder platform) initial
      (before ++ after))
    (workUnitId resultEnvelopeId : String)
    (summarised : Summarised (Store.run (ResultsPlane.step platform) initial before) workUnitId
      resultEnvelopeId)
    (newest : NewestResult
      (Store.run (ResultsPlane.step platform) initial (before ++ after)).db workUnitId
      resultEnvelopeId) (draws : Draws) :
    ∃ body shown,
      (getHostResultSummary platform draws workUnitId).run
          (Store.run (ResultsPlane.step platform) initial (before ++ after)) =
        (.ok (some body), Store.run (ResultsPlane.step platform) initial (before ++ after)) ∧
      traceRef body = some shown ∧
      NewestResult (Store.run (ResultsPlane.step platform) initial (before ++ after)).db workUnitId
        shown := by
  have allowed := Store.along_and (ResultsPlane.step platform) (InOrder platform)
    (ResultOp.Supplied platform) initial (before ++ after) inOrder supplied
  obtain ⟨first, second⟩ := (Store.along_append _ _ _ _ _).mp allowed
  have kept := Store.run_invariant (ResultsPlane.step platform) (Kept platform) _ initial before
    (kept_fresh fresh) (fun plane op kept meets => (kept_step keeps kept op meets.2 meets.1).1) first
  obtain ⟨last, still⟩ := Store.run_invariant (ResultsPlane.step platform)
    (fun plane => Kept platform plane ∧ Summarised plane workUnitId resultEnvelopeId) _
    (Store.run (ResultsPlane.step platform) initial before) after ⟨kept, summarised⟩
    (fun plane op before meets =>
      (kept_step keeps before.1 op meets.2 meets.1).imp id (fun later => later _ _ before.2)) second
  rw [Store.run_append] at newest ⊢
  obtain ⟨entry, listed, named⟩ := still
  have unit (entry : String × HostSummaryRow) (listed : entry ∈ summariesOf (Store.run
      (ResultsPlane.step platform) (Store.run (ResultsPlane.step platform) initial before) after)
      workUnitId) : entry.2.workUnitId = workUnitId := by
    simpa using (List.mem_filter.mp listed).2
  obtain ⟨shown, latest, key, shownNamed, shownNewest⟩ := last.answered workUnitId
    ⟨entry, listed, resultEnvelopeId, named, by rw [unit entry listed]; exact newest⟩
  rw [unit shown (Store.newest_spec _ _ _ latest).1] at shownNewest
  exact ⟨shown.2.body, key, shown_of_latest draws latest, shownNamed, shownNewest⟩

section Sample

/-- A work unit that checks a URL. -/
def sampleWorkUnit : WorkUnit where
  workUnitId := "wu_1"
  runId := "run_1"
  taskType := "url_check"
  taskLevel := .l0
  createdAt := "2026-01-01T00:00:00Z"
  updatedAt := "2026-01-01T00:00:00Z"

/-- A plan for the work unit. -/
def samplePlan : RoutePlan where
  routePlanId := "rp_1"
  workUnitId := "wu_1"
  taskType := "url_check"
  taskLevel := .l0
  candidates := [{
    routeCandidateId := "rc_1"
    capacityNodeId := "cap_1"
    backendClass := .localTool
    backendId := "backend_1" }]
  selectedCandidateId := "rc_1"
  verifierRecipeId := "url_check_v0"
  createdAt := "2026-01-01T00:00:00Z"
  nonEmpty := by simp

/-- The approval of the plan. -/
def sampleDecision : PolicyDecision where
  policyDecisionId := "pol_1"
  workUnitId := "wu_1"
  routePlanId := "rp_1"
  decision := .approved
  reasons := []
  checks := []
  effectiveConstraints := []
  decidedAt := "2026-01-01T00:00:00Z"

/-- Libraries that read documents for what the sample needs, with a short digest. -/
def samplePlatform : ResultsPlatform where
  scheduler := ⟨Scenario.digest, fun _ => none⟩
  validate := Scenario.verifier.validate
  library := Hashes.sampleLibrary
  workUnit body := match Json.get (jsonObject body) "work_unit_id" with
    | .str workUnitId => .ok { sampleWorkUnit with workUnitId := workUnitId }
    | _ => .error .validationError
  routePlan _ := .ok ()
  policyDecision _ := .ok sampleDecision

/-- The control plane with one worker and nothing else. -/
def samplePlane : ResultsPlane where
  host := {
    plane := {
      db := { Scenario.db with workUnits := .empty, routePlans := [], policyDecisions := [] }
      workerManifests := .empty
      workerHealthSnapshots := .empty
      routePlans := .empty }
    runs := .empty
    workUnitDetails := .empty
    policyDecisions := .empty }
  verifierReports := .empty
  verifierCheckResults := .empty
  hostResultSummaries := .empty

/-- The work unit, its plan and its approval are stored. -/
def submitted : List ResultOp :=
  [.persistRunAndWorkUnit (Scenario.draws 10) sampleWorkUnit "VS0",
    .persistRoutePlan (Scenario.draws 11) samplePlan,
    .persistPolicyDecision (Scenario.draws 12) sampleDecision]

/-- Two attempts are made and accepted by the worker. -/
def attempted : List ResultOp :=
  submitted ++ [.schedule (Scenario.createAttempt 13), .schedule (Scenario.assignNextWork 14),
    .schedule (Scenario.accept 15 14 0), .schedule (Scenario.scheduleRetry 16 13),
    .schedule (Scenario.assignNextWork 17), .schedule (Scenario.accept 18 17 0)]

/-- The result of the second attempt is submitted, then that of the first one, which is late. -/
def handedIn : List ResultOp :=
  attempted ++ [.schedule (Scenario.submitEnvelope 19 16 17 18 "res_b" .succeeded),
    .schedule (Scenario.submitEnvelope 20 13 14 15 "res_a" .succeeded)]

/-- The result of the second attempt is finalized. -/
def newestFinalized : List ResultOp := handedIn ++ [.finalize (Scenario.draws 21) "res_b"]

/-- The late result is finalized as well. -/
def lateFinalized : List ResultOp := newestFinalized ++ [.finalize (Scenario.draws 22) "res_a"]

/-- The state a list of calls of the sample leads to. -/
def reached (ops : List ResultOp) : ResultsPlane :=
  Store.run (ResultsPlane.step samplePlatform) samplePlane ops

/-- The sample starts with nothing stored. -/
theorem samplePlane_fresh : FreshResults samplePlane := ⟨⟨rfl, rfl, rfl, rfl⟩, rfl, rfl, rfl⟩

/-- The sample's libraries keep the ids of work units. -/
theorem samplePlatform_keeps : samplePlatform.KeepsWorkUnits := by
  intro workUnit read named validated
  have same_read := Except.ok.inj validated
  subst same_read
  rfl

/-- The output of the sample's results is a JSON value whose keys stay as they are. -/
theorem sampleOutput_settled : Hashes.sampleLibrary.Settled [("reachable", .bool true)] :=
  ⟨by decide, by decide⟩

/-- The sample's envelopes are valid. -/
theorem sampleEnvelope_valid (id : String) (creating assigning : Nat) (named : Named id)
    (attempt : Named (Scenario.attemptId creating))
    (assignment : Named (Scenario.assignmentId assigning)) :
    (Scenario.envelope id creating assigning .succeeded).Valid samplePlatform.library :=
  { resultEnvelopeId := named
    workUnitId := (by decide : Named "wu_1")
    runId := (by decide : Named "run_1")
    attemptId := attempt
    assignmentId := assignment
    backendId := fun _ absent => by cases absent
    providerId := fun _ absent => by cases absent
    modelId := fun _ absent => by cases absent
    workerId := fun _ absent => by cases absent
    capacityNodeId := fun _ absent => by cases absent
    output := sampleOutput_settled
    outputHash := (by decide : Named "sha256:output")
    resultHash := (by decide : Named "sha256:result")
    artifactRefs := fun _ inNone => absurd inNone List.not_mem_nil
    usageRecords := fun _ inNone => absurd inNone List.not_mem_nil
    redactedLogs := fun _ inNone => absurd inNone List.not_mem_nil
    errors := fun _ inNone => absurd inNone List.not_mem_nil
    backendError := fun _ absent => by cases absent
    startedAt := fun _ absent => by cases absent
    completedAt := rfl }

/-- The sample's envelopes have no forbidden key. -/
theorem sampleEnvelope_allowed (id : String) (creating assigning : Nat) : BaseModel.hasForbiddenKey
    (Scenario.envelope id creating assigning .succeeded).modelDump = false :=
  (WorkUnitResultEnvelope.allowed_dump_iff _).mpr
    ⟨(by decide : BaseModel.hasForbiddenKey (.obj [("reachable", .bool true)]) = false),
      fun _ inNone => absurd inNone List.not_mem_nil,
      fun _ inNone => absurd inNone List.not_mem_nil, fun _ absent => by cases absent⟩

/-- The envelope of the second attempt is valid. -/
theorem second_valid :
    (Scenario.envelope "res_b" 16 17 .succeeded).Valid samplePlatform.library :=
  sampleEnvelope_valid "res_b" 16 17 (by decide) (by decide) (by decide)

/-- The envelope of the first attempt is valid. -/
theorem first_valid :
    (Scenario.envelope "res_a" 13 14 .succeeded).Valid samplePlatform.library :=
  sampleEnvelope_valid "res_a" 13 14 (by decide) (by decide) (by decide)

/-- The sample's calls bring what callers can bring. -/
theorem lateFinalized_supplied : ∀ op ∈ lateFinalized, op.Supplied samplePlatform := by
  have envelopes : ∀ call creating assigning accepting id,
      (Scenario.envelope id creating assigning .succeeded).Valid samplePlatform.library →
      (ResultOp.schedule (Scenario.submitEnvelope call creating assigning accepting id
        .succeeded)).Supplied samplePlatform := by
    intro call creating assigning accepting id valid
    refine ⟨sampleOutput_settled.1, fun envelope coerced => ?_⟩
    have same_envelope := Option.some.inj (Except.ok.inj coerced)
    subst same_envelope
    exact valid
  intro op listed
  simp only [lateFinalized, newestFinalized, handedIn, attempted, submitted, List.cons_append,
    List.nil_append, List.mem_cons, List.not_mem_nil, or_false] at listed
  rcases listed with rfl | rfl | rfl | rfl | rfl | rfl | rfl | rfl | rfl | rfl | rfl | rfl | rfl
  · exact (by decide : Named "wu_1")
  iterate 8 exact trivial
  · exact envelopes _ _ _ _ _ second_valid
  · exact envelopes _ _ _ _ _ first_valid
  iterate 2 exact trivial

/-- Until a result is finalized nothing has to come in order. -/
theorem handedIn_inOrder :
    Store.Along (ResultsPlane.step samplePlatform) (InOrder samplePlatform) samplePlane handedIn :=
  ⟨trivial, trivial, trivial, trivial, trivial, trivial, trivial, trivial, trivial, trivial,
    trivial, trivial⟩

/-- When both results are handed in, the work unit is there, the result of the first attempt
is quarantined and that of the second one is the newest; nothing is summarised, and the events
of the finalizations are not enqueued. -/
theorem handedIn_facts :
    (reached handedIn).hostResultSummaries.entries.length = 0 ∧
      ((reached handedIn).db.workUnits.find? "wu_1").isSome = true ∧
      ((reached handedIn).db.resultEnvelopes.find? "res_a").map ResultEnvelopeRow.status =
        some .quarantined ∧
      NewestResult (reached handedIn).db "wu_1" "res_b" ∧
      ¬ NewestResult (reached handedIn).db "wu_1" "res_a" ∧
      ∀ call ∈ [21, 22], ∀ position ∈ [1, 3], (reached handedIn).db.eventOutbox.find?
        ("evt_" ++ (Scenario.draws call).uuid position) = none := by
  decide +kernel

/-- Before the first finalization there are no summaries. -/
theorem handedIn_unsummarised : (reached handedIn).hostResultSummaries.entries = [] :=
  List.length_eq_zero_iff.mp handedIn_facts.1

/-- The first finalization comes in order. -/
theorem handedIn_orderly (resultEnvelopeId createdAt : String) :
    Orderly samplePlatform (reached handedIn) resultEnvelopeId createdAt := by
  intro envelope read
  have none_listed (workUnitId : String) : summariesOf (reached handedIn) workUnitId = [] := by
    rw [summariesOf, Store.Table.select, handedIn_unsummarised]
    rfl
  refine ⟨?_, ?_, ?_⟩
  · intro recommendation listed row found
    rw [Store.Table.find?_of_entries_nil _ handedIn_unsummarised] at found
    cases found
  · intro _ _ entry listed
    rw [none_listed] at listed
    cases listed
  · rintro - ⟨entry, listed, -⟩
    rw [none_listed] at listed
    cases listed

/-- What is kept of summaries when both results are handed in. -/
theorem handedIn_kept : Kept samplePlatform (reached handedIn) := by
  have supplied : ∀ op ∈ handedIn, op.Supplied samplePlatform := fun op listed =>
    lateFinalized_supplied op (List.mem_append_left _ (List.mem_append_left _ listed))
  exact Store.run_invariant (ResultsPlane.step samplePlatform) (Kept samplePlatform) _ samplePlane
    handedIn (kept_fresh samplePlane_fresh)
    (fun plane op kept meets => (kept_step samplePlatform_keeps kept op meets.2 meets.1).1)
    (Store.along_and _ _ _ _ _ handedIn_inOrder supplied)

/-- The sample's stored results are sound. -/
theorem reached_soundly (ops : List ResultOp) (listed : ∀ op ∈ ops, op ∈ lateFinalized) :
    StoredSoundly samplePlatform (reached ops) :=
  Store.run_preserves (ResultsPlane.step samplePlatform) (StoredSoundly samplePlatform) samplePlane
    ops samplePlane_fresh.soundly (fun _ op sound member =>
      sound.step samplePlatform_keeps op (lateFinalized_supplied op (listed op member)))

/-- The results that were handed in are stored with their envelopes. -/
theorem handedIn_stored :
    (∃ row status, (reached handedIn).db.resultEnvelopes.find? "res_b" = some row ∧
      row.body = .obj ((Scenario.envelope "res_b" 16 17 .succeeded).dumpWithStatus status)) ∧
    ∃ row status, (reached handedIn).db.resultEnvelopes.find? "res_a" = some row ∧
      row.body = .obj ((Scenario.envelope "res_a" 13 14 .succeeded).dumpWithStatus status) := by
  let second := reached (attempted ++
    [.schedule (Scenario.submitEnvelope 19 16 17 18 "res_b" .succeeded)])
  have firstSound := reached_soundly attempted (fun op member =>
    List.mem_append_left _ (List.mem_append_left _ (List.mem_append_left _ member)))
  have secondSound : StoredSoundly samplePlatform second := reached_soundly _ (fun op member => by
    simp only [lateFinalized, newestFinalized, handedIn, List.mem_append, List.mem_cons] at member ⊢
    tauto)
  have second_db : second.db = Scheduler.step samplePlatform.scheduler (reached attempted).db
      (Scenario.submitEnvelope 19 16 17 18 "res_b" .succeeded) := by
    simp only [second, reached, Store.run_append, Store.run_cons, Store.run_nil,
      ResultsPlane.step_schedule]
    rfl
  have last_db : (reached handedIn).db = Scheduler.step samplePlatform.scheduler second.db
      (Scenario.submitEnvelope 20 13 14 15 "res_a" .succeeded) := by
    simp only [second, handedIn, reached, Store.run_append, Store.run_cons, Store.run_nil,
      ResultsPlane.step_schedule]
    rfl
  have accepted : (Scheduler.runAlone samplePlatform.scheduler
      (Scenario.submitEnvelope 19 16 17 18 "res_b" .succeeded) (reached attempted).db).1 =
      .ok (.submission ⟨.succeeded, "res_b", "sha256:output", "sha256:result"⟩) := by decide +kernel
  have acceptedLate : (Scheduler.runAlone samplePlatform.scheduler
      (Scenario.submitEnvelope 20 13 14 15 "res_a" .succeeded) second.db).1 =
      .ok (.submission ⟨.quarantined, "res_a", "sha256:output", "sha256:result"⟩) := by
    decide +kernel
  rw [last_db]
  constructor
  · obtain ⟨row, status, found, body⟩ := StoredHashes.submission_stores samplePlatform.scheduler
      (reached attempted).db firstSound.wellFormed (Scenario.draws 19) _ _ accepted
      (Scenario.envelope "res_b" 16 17 .succeeded) rfl
    refine ⟨row, status, ?_, body⟩
    change (Scheduler.step _ _ (Scenario.submitEnvelope 19 16 17 18 "res_b" .succeeded)
      ).resultEnvelopes.find? _ = _ at found
    rw [← second_db] at found
    rcases Scheduler.step_cases samplePlatform.scheduler _ second.db secondSound.wellFormed with
      ⟨error, -, same⟩ | ⟨reply, plan, -, -, performed⟩
    · rw [same]
      exact found
    · exact result_kept performed found
  · exact StoredHashes.submission_stores samplePlatform.scheduler second.db secondSound.wellFormed
      (Scenario.draws 20) _ _ acceptedLate (Scenario.envelope "res_a" 13 14 .succeeded) rfl

/-- The documents of the sample's work unit make a context. -/
theorem handedIn_context :
    ∃ context, contextOf samplePlatform (reached handedIn) "wu_1" = .ok (some context) := by
  have made : (contextOf samplePlatform (reached handedIn) "wu_1").toOption.join.isSome = true := by
    decide +kernel
  cases supported : contextOf samplePlatform (reached handedIn) "wu_1" with
  | error raised =>
    rw [supported] at made
    cases made
  | ok found =>
    rw [supported] at made
    obtain ⟨context, same⟩ := Option.isSome_iff_exists.mp made
    have held : found = some context := same
    exact ⟨context, congrArg Except.ok held⟩

/-- Finalizing a result of the sample returns. -/
theorem sample_finalizes (call : Nat) (plane : ResultsPlane)
    (sound : StoredSoundly samplePlatform plane) (id : String) (creating assigning : Nat)
    (valid : (Scenario.envelope id creating assigning .succeeded).Valid samplePlatform.library)
    (row : ResultEnvelopeRow) (status : ResultEnvelopeStatus)
    (found : plane.db.resultEnvelopes.find? id = some row)
    (body : row.body = .obj ((Scenario.envelope id creating assigning .succeeded).dumpWithStatus
      status))
    (context : SupportedContext)
    (supported : contextOf samplePlatform plane "wu_1" = .ok (some context))
    (unit : (plane.db.workUnits.find? "wu_1").isSome = true)
    (firstUnused : plane.db.eventOutbox.find? ("evt_" ++ (Scenario.draws call).uuid 1) = none)
    (secondUnused : plane.db.eventOutbox.find? ("evt_" ++ (Scenario.draws call).uuid 3) = none) :
    ∃ report summary left,
      (finalizeUrlCheckResult samplePlatform (Scenario.draws call) id).run plane =
        (.ok (some (report, summary)), left) ∧
      ∀ eventId, eventId ≠ "evt_" ++ (Scenario.draws call).uuid 1 →
        eventId ≠ "evt_" ++ (Scenario.draws call).uuid 3 →
        left.db.eventOutbox.find? eventId = plane.db.eventOutbox.find? eventId := by
  let envelope := WorkUnitResultEnvelope.reordered
    { Scenario.envelope id creating assigning .succeeded with status := status }
  have read : storedEnvelope samplePlatform plane.db id = some envelope := by
    rw [storedEnvelope, found, Option.bind_some, body]
    exact samplePlatform.readEnvelope_of_dump _ valid status
      (sampleEnvelope_allowed id creating assigning)
  have checked : ∃ schemaChecks, Checks.checkOutputSchema samplePlatform.verifier envelope
      context.recipe (some context.workUnit.modelDump) = .ok schemaChecks := by
    simp only [Checks.checkOutputSchema]
    split
    · exact ⟨_, rfl⟩
    · exact ⟨_, rfl⟩
  obtain ⟨schemaChecks, checked⟩ := checked
  have ran : ∃ report, VerifierRunner.run samplePlatform.verifier context.recipe envelope
      (some context.workUnit.modelDump) (some context.policyDecision.modelDump)
      ((Scenario.draws call).utcText 0) = .ok report :=
    ⟨_, by rw [VerifierRunner.run, checked]; rfl⟩
  obtain ⟨report, ran⟩ := ran
  have summarised : ∃ text, resultSummary envelope.output = .ok text := ⟨_, rfl⟩
  obtain ⟨text, summarised⟩ := summarised
  have built : ∃ summary, buildHostSummary context.workUnit envelope report
      ((Scenario.draws call).utcText 2) = .ok summary :=
    ⟨_, by rw [buildHostSummary, summarised]; rfl⟩
  obtain ⟨summary, built⟩ := built
  obtain ⟨left, returned, others⟩ := finalizeUrlCheckResult_returns samplePlatform
    (Scenario.draws call) id plane envelope context report summary ⟨read, supported, ran⟩ built unit
    (by change (plane.db.resultEnvelopes.find? id).isSome = true; rw [found]; rfl)
    (context_workUnit sound supported)
    (fun same => absurd ((String.append_right_inj _).mp same) (by decide)) firstUnused secondUnused
  exact ⟨report, summary, left, returned, others⟩

/-- Finalizing the result of the newest attempt summarises it, alone. -/
theorem newest_finalized : ∃ key summary,
    summariesOf (reached newestFinalized) "wu_1" = [(key, summary)] ∧
      (∀ other, other ≠ key → (reached newestFinalized).hostResultSummaries.find? other = none) ∧
      traceRef summary.body = some "res_b" ∧
      summary.createdAt = (Scenario.draws 21).utcText 2 ∧
      (∃ outbox, (reached newestFinalized).host = ((reached handedIn).withEvents outbox).host) ∧
      ∀ eventId, eventId ≠ "evt_" ++ (Scenario.draws 21).uuid 1 →
        eventId ≠ "evt_" ++ (Scenario.draws 21).uuid 3 →
        (reached newestFinalized).db.eventOutbox.find? eventId =
          (reached handedIn).db.eventOutbox.find? eventId := by
  have sound := handedIn_kept.sound
  have unused := handedIn_facts.2.2.2.2.2
  obtain ⟨row, status, found, body⟩ := handedIn_stored.1
  obtain ⟨context, supported⟩ := handedIn_context
  obtain ⟨report, summary, left, returned, others⟩ := sample_finalizes 21 (reached handedIn) sound
    "res_b" 16 17 second_valid row status found body context supported handedIn_facts.2.1
    (unused 21 (by simp) 1 (by simp)) (unused 21 (by simp) 3 (by simp))
  have last : reached newestFinalized = left := by
    rw [reached, newestFinalized, Store.run_append, Store.run_cons, Store.run_nil,
      ResultsPlane.step]
    simp only [ResultOp.program, ResultsPlane.run_discarded]
    exact congrArg Prod.snd returned
  have ends := (finalizeUrlCheckResult_ensures samplePlatform (Scenario.draws 21) "res_b"
    (reached handedIn)).run
  rw [returned] at ends
  have same_host := ends.host
  rw [last]
  cases ends with
  | summarised envelope context report summary reported left verified stored built shown =>
    obtain ⟨unit, wrote⟩ := verified_wrote sound verified built
      (stored.summaries ▸ shown.summaries)
    have read := verified.read
    rw [storedEnvelope, found, Option.bind_some, body] at read
    have same_envelope := samplePlatform.readEnvelope_dump _ second_valid _ _ read
    have same_unit : envelope.workUnitId = "wu_1" := by rw [same_envelope]; rfl
    rw [same_unit] at wrote
    rcases summariesOf_after wrote "wu_1" with ⟨present, -⟩ | ⟨-, grown⟩
    · rw [Store.Table.find?_of_entries_nil _ handedIn_unsummarised] at present
      exact absurd rfl present
    · have none_before : summariesOf (reached handedIn) "wu_1" = [] := by
        rw [summariesOf, Store.Table.select, handedIn_unsummarised]
        rfl
      rw [none_before] at grown
      refine ⟨_, _, grown, fun other different => ?_, wrote.named, rfl, same_host, others⟩
      rw [wrote.summaries, Store.Table.find?_upsert, if_neg different]
      exact Store.Table.find?_of_entries_nil _ handedIn_unsummarised other

/-- Once the result of the newest attempt is finalized, its summary is shown. -/
theorem newest_result_shown_sample : ∃ body shown,
    (getHostResultSummary samplePlatform (Scenario.draws 30) "wu_1").run (reached newestFinalized) =
      (.ok (some body), reached newestFinalized) ∧
    traceRef body = some shown ∧ NewestResult (reached newestFinalized).db "wu_1" shown := by
  obtain ⟨key, summary, listed, -, named, -, ⟨outbox, same_host⟩, -⟩ := newest_finalized
  have inOrder : Store.Along (ResultsPlane.step samplePlatform) (InOrder samplePlatform) samplePlane
      newestFinalized :=
    (Store.along_append _ _ _ _ _).mpr ⟨handedIn_inOrder, handedIn_orderly _ _, trivial⟩
  have same_db : (reached newestFinalized).db =
      { (reached handedIn).db with eventOutbox := outbox } := by
    rw [ResultsPlane.db, same_host]
    rfl
  have newest : NewestResult (reached newestFinalized).db "wu_1" "res_b" := by
    rw [same_db, newestResult_outbox]
    exact handedIn_facts.2.2.2.1
  have summarised : (key, summary) ∈ summariesOf (reached newestFinalized) "wu_1" := by
    rw [listed]
    exact List.mem_cons_self
  have shown := newest_result_shown samplePlatform samplePlatform_keeps samplePlane
    samplePlane_fresh newestFinalized []
    (fun op member => lateFinalized_supplied op
      (List.mem_append_left _ (by rwa [List.append_nil] at member)))
    (by rw [List.append_nil]; exact inOrder) "wu_1" "res_b"
    ⟨(key, summary), summarised, named⟩ (by rw [List.append_nil]; exact newest) (Scenario.draws 30)
  rw [List.append_nil] at shown
  exact shown

/-- A late result that is finalized after the result of the newest attempt takes over. -/
theorem late_result_shown :
    Summarised (reached newestFinalized) "wu_1" "res_b" ∧
      NewestResult (reached newestFinalized).db "wu_1" "res_b" ∧
      ((reached lateFinalized).db.resultEnvelopes.find? "res_a").map ResultEnvelopeRow.status =
        some .quarantined ∧
      NewestResult (reached lateFinalized).db "wu_1" "res_b" ∧
      ¬ NewestResult (reached lateFinalized).db "wu_1" "res_a" ∧
      ∃ body, (getHostResultSummary samplePlatform (Scenario.draws 30) "wu_1").run
          (reached lateFinalized) = (.ok (some body), reached lateFinalized) ∧
        traceRef body = some "res_a" := by
  obtain ⟨key, summary, listed, alone, named, created, ⟨outbox, same_host⟩, others⟩ :=
    newest_finalized
  obtain ⟨-, unit, quarantined, newest, older, fresh⟩ := handedIn_facts
  have sound : StoredSoundly samplePlatform (reached newestFinalized) := reached_soundly _
    (fun op member => List.mem_append_left _ member)
  have same_db : (reached newestFinalized).db =
      { (reached handedIn).db with eventOutbox := outbox } := by
    rw [ResultsPlane.db, same_host]
    rfl
  obtain ⟨row, status, found, body⟩ := handedIn_stored.2
  obtain ⟨context, supported⟩ := handedIn_context
  have unused (position : Nat) (known : position = 1 ∨ position = 3) :
      (reached newestFinalized).db.eventOutbox.find?
        ("evt_" ++ (Scenario.draws 22).uuid position) = none := by
    rcases known with rfl | rfl
    · exact (others _ (by decide) (by decide)).trans
        (fresh 22 (by simp) 1 (by simp))
    · exact (others _ (by decide) (by decide)).trans
        (fresh 22 (by simp) 3 (by simp))
  obtain ⟨report, later, left, returned, -⟩ := sample_finalizes 22 (reached newestFinalized) sound
    "res_a" 13 14 first_valid row status (by rw [same_db]; exact found) body context
    (by rw [contextOf, same_host]; exact supported)
    (by rw [same_db]; exact unit) (unused 1 (.inl rfl)) (unused 3 (.inr rfl))
  have last : reached lateFinalized = left := by
    rw [reached, lateFinalized, Store.run_append, Store.run_cons, Store.run_nil,
      ResultsPlane.step]
    simp only [ResultOp.program, ResultsPlane.run_discarded]
    exact congrArg Prod.snd returned
  have ends := (finalizeUrlCheckResult_ensures samplePlatform (Scenario.draws 22) "res_a"
    (reached newestFinalized)).run
  rw [returned] at ends
  obtain ⟨lastOutbox, last_host⟩ := ends.host
  have last_db : left.db = { (reached handedIn).db with eventOutbox := lastOutbox } := by
    rw [ResultsPlane.db, last_host]
    exact congrArg (fun db : Db => { db with eventOutbox := lastOutbox }) same_db
  have taken : ∃ shown, latestSummary left "wu_1" = some shown ∧
      traceRef shown.2.body = some "res_a" := by
    cases ends with
    | summarised envelope context report summary reported left verified stored built shown =>
      obtain ⟨unit, wrote⟩ := verified_wrote sound verified built
        (stored.summaries ▸ shown.summaries)
      have read := verified.read
      rw [storedEnvelope, same_db] at read
      change ((reached handedIn).db.resultEnvelopes.find? "res_a").bind _ = _ at read
      rw [found, Option.bind_some, body] at read
      have same_envelope := samplePlatform.readEnvelope_dump _ first_valid _ _ read
      have same_unit : envelope.workUnitId = "wu_1" := by rw [same_envelope]; rfl
      rw [same_unit] at wrote
      change ∃ shown, Store.newest _ (summariesOf left "wu_1") = some shown ∧ _
      rcases summariesOf_after wrote "wu_1" with ⟨present, rewritten⟩ | ⟨-, grown⟩
      · have same_key : summaryId samplePlatform later = key := by
          by_contra different
          exact present (alone _ different)
        rw [rewritten, listed, List.map_singleton]
        refine ⟨_, Store.newest_singleton _ _, ?_⟩
        simp only [replaced, same_key, if_true]
        exact wrote.named
      · rw [grown, listed, if_pos rfl]
        refine ⟨_, Store.newest_taken _ _ _ ?_, wrote.named⟩
        intro other member
        rw [List.mem_singleton.mp member]
        change summary.createdAt < (Scenario.draws 22).utcText 2
        rw [created]
        decide
  obtain ⟨shown, latest, shownNamed⟩ := taken
  refine ⟨⟨(key, summary), by rw [listed]; exact List.mem_cons_self, named⟩, ?_, ?_, ?_, ?_,
    shown.2.body, ?_, shownNamed⟩
  · rw [same_db, newestResult_outbox]
    exact newest
  · rw [last, last_db]
    exact quarantined
  · rw [last, last_db, newestResult_outbox]
    exact newest
  · rw [last, last_db, newestResult_outbox]
    exact older
  · rw [last]
    exact shown_of_latest _ latest

end Sample

end HostResults

end TokenBank
