import TokenBank.Audit.Evolution
import TokenBank.Audit.Giving
import TokenBank.Guarantees.HostResults

/-!
# Receipts over a run

Whatever calls are in progress on the tables, and in whatever order they take their turns:
a receipt that was stored stays as it is, the receipts that it leads back to were stored before
it, and what it gives account of was accepted. Its hash commits to all of that.
-/

namespace TokenBank

namespace Audit

open Canonical Ledger Validation Store.Client

/-! ## A sample -/

/-- The numbers that the ids of the sample's documents end in. -/
def numbers : List String := ["1", "2"]

/-- The document of a sample's work unit. -/
def workUnitFields (number : String) : JsonObject :=
  [("run_id", .str ("run_" ++ number)), ("work_unit_id", .str ("wu_" ++ number))]

/-- The document of a sample's result. -/
def resultFields (number : String) : JsonObject :=
  [("result_envelope_id", .str ("res_" ++ number)), ("result_hash", .str ("result_" ++ number))]

/-- The document of the report on a sample's result. -/
def reportFields (number : String) : JsonObject :=
  [("recommendation", .str "accept"), ("verifier_report_id", .str ("vr_" ++ number))]

/-- The document of a sample's plan. -/
def routeFields (number : String) : JsonObject := [("route_plan_id", .str ("rp_" ++ number))]

/-- The document of a sample's assignment. -/
def assignmentFields (number : String) : JsonObject := [("assignment_id", .str ("asg_" ++ number))]

/-- The documents of an accepted result for each of two work units. -/
def sampleResults : ResultsPlane where
  host := {
    plane := {
      db := { Scenario.db with
        workUnits := ⟨numbers.map (fun number =>
          ("wu_" ++ number, ⟨.submitted, "2026-01-01T00:00:00Z"⟩)), by decide⟩
        routePlans := numbers.map ("rp_" ++ ·)
        assignments := ⟨numbers.map (fun number => ("asg_" ++ number, {
          attemptId := "att_" ++ number
          workUnitId := "wu_" ++ number
          workerId := "wrk_1"
          status := .completed
          body := .obj (assignmentFields number)
          createdAt := "2026-01-01T00:00:00Z"
          capacityNodeId := some "cap_1"
          backendId := some "backend_1"
          effectiveConstraints := .obj []
          assignedAt := none
          updatedAt := none })), by decide⟩
        resultEnvelopes := ⟨numbers.map (fun number => ("res_" ++ number, ⟨"wu_" ++ number,
          "att_" ++ number, "asg_" ++ number, .succeeded, "output", "result_" ++ number,
          .obj (resultFields number), "2026-01-01T00:00:00Z"⟩)), by decide⟩ }
      workerManifests := .empty
      workerHealthSnapshots := .empty
      routePlans := ⟨numbers.map (fun number => ("rp_" ++ number, ⟨"wu_" ++ number, "planned",
        .obj (routeFields number), "2026-01-01T00:00:00Z"⟩)), by decide⟩ }
    runs := .empty
    workUnitDetails := ⟨numbers.map (fun number => ("wu_" ++ number, ⟨"run_" ++ number,
      "url_check", "L0", .obj (workUnitFields number), "2026-01-01T00:00:00Z"⟩)), by decide⟩
    policyDecisions := .empty }
  verifierReports := ⟨numbers.map (fun number => ("vr_" ++ number, ⟨"wu_" ++ number,
    "res_" ++ number, "passed", "accept", .obj (reportFields number), "2026-01-01T00:00:00Z"⟩)),
    by decide⟩
  verifierCheckResults := .empty
  hostResultSummaries := .empty

/-- The tables of the sample, without entries and receipts. -/
def samplePlane : LedgerPlane := ⟨sampleResults, .empty, .empty, .empty⟩

theorem samplePlane_blank : Blank samplePlane := ⟨rfl, rfl⟩

/-- The documents of the sample are read as they are stored. -/
theorem loads_sample (number : String) : ∀ fields ∈ [workUnitFields number, routeFields number,
    assignmentFields number, resultFields number, reportFields number],
    loads (.obj fields) = .ok (.obj fields) := by
  intro fields inFields
  simp only [List.mem_cons, List.not_mem_nil, or_false] at inFields
  rcases inFields with rfl | rfl | rfl | rfl | rfl
  all_goals
    rw [loads_plain (by rfl)]
    simp [ordered, orderedFields, byKey, workUnitFields, routeFields, assignmentFields,
      resultFields, reportFields]

/-- The context of an entry of the sample. -/
def sampleCompleted (number : String) : CompletedContext where
  workUnitBody := .obj (workUnitFields number)
  routePlanId := "rp_" ++ number
  routeBody := .obj (routeFields number)
  resultEnvelopeId := "res_" ++ number
  resultBody := .obj (resultFields number)
  verifierReportId := some ("vr_" ++ number)
  verifierBody := .obj (reportFields number)

/-- The context of a receipt of the sample. -/
def sampleAccepted (number : String) : AcceptedContext where
  resultEnvelopeId := "res_" ++ number
  workUnitBody := .obj (workUnitFields number)
  routeBody := .obj (routeFields number)
  assignmentBody := .obj (assignmentFields number)
  resultBody := .obj (resultFields number)
  verifierBody := .obj (reportFields number)

/-- The contexts of the sample. -/
theorem contexts_sample {number : String} (listed : number ∈ numbers) :
    completedContextOf samplePlane ("wu_" ++ number) = .ok (sampleCompleted number) ∧
      acceptedContextOf samplePlane ("wu_" ++ number) = .ok (sampleAccepted number) := by
  have loaded := loads_sample number
  simp only [List.forall_mem_cons] at loaded
  obtain ⟨workUnit, route, assignment, result, report, -⟩ := loaded
  simp only [numbers, List.mem_cons, List.not_mem_nil, or_false] at listed
  rcases listed with rfl | rfl
  all_goals
    constructor
    · exact goes_on rfl <| goes_on rfl <| goes_on rfl <| goes_on rfl <|
        goes_on workUnit <| goes_on route <| goes_on result <| goes_on report rfl
    · exact goes_on rfl <| goes_on rfl <| goes_on rfl <| goes_on report <|
        goes_on rfl <| goes_on rfl <| goes_on rfl <| goes_on rfl <|
        goes_on workUnit <| goes_on route <| goes_on assignment <| goes_on result rfl

/-! ### Its digest and its ids -/

/-- A character in unary, with a mark behind it. -/
def spelled (character : Char) : List Char := List.replicate character.toNat '1' ++ ['0']

/-- A short digest of a text, thrice. -/
def shortDigest (text : String) : List Char :=
  (Scenario.digest text).toList ++ (Scenario.digest text).toList ++ (Scenario.digest text).toList

/-- A digest that begins with a short one and then spells the text out. -/
def sampleDigest (text : String) : String :=
  String.ofList (shortDigest text ++ text.toList.flatMap spelled)

/-- The libraries of the sample. -/
def samplePlatform : ResultsPlatform :=
  { HostResults.samplePlatform with scheduler := ⟨sampleDigest, fun _ => none⟩ }

/-- A run and what is behind it are told apart by the mark between them. -/
theorem marked_inj (left right : Nat) (front behind : List Char)
    (same : List.replicate left '1' ++ '0' :: front = List.replicate right '1' ++ '0' :: behind) :
    left = right ∧ front = behind := by
  induction left generalizing right with
  | zero =>
    cases right with
    | zero => exact ⟨rfl, (List.cons.inj same).2⟩
    | succ right =>
      have marks : '0' = '1' := (List.cons.inj same).1
      exact absurd marks (by decide)
  | succ left inductionHypothesis =>
    cases right with
    | zero =>
      have marks : '1' = '0' := (List.cons.inj same).1
      exact absurd marks (by decide)
    | succ right =>
      obtain ⟨lengths, rests⟩ := inductionHypothesis right (List.cons.inj same).2
      exact ⟨congrArg Nat.succ lengths, rests⟩

/-- A text is told by how it is spelled out. -/
theorem flatMap_spelled_inj (left right : List Char)
    (same : left.flatMap spelled = right.flatMap spelled) : left = right := by
  induction left generalizing right with
  | nil =>
    cases right with
    | nil => rfl
    | cons character rest => simp [spelled] at same
  | cons character rest inductionHypothesis =>
    cases right with
    | nil => simp [spelled] at same
    | cons other others =>
      simp only [List.flatMap_cons, spelled, List.append_assoc, List.singleton_append] at same
      obtain ⟨codes, rests⟩ := marked_inj _ _ _ _ same
      rw [Char.toNat_inj.mp codes, inductionHypothesis others rests]

theorem length_shortDigest (text : String) : (shortDigest text).length = 27 := by
  simp [shortDigest, Scenario.digest]

/-- The digest tells texts apart. -/
theorem sampleDigest_separates (left right : String) :
    Hashes.Separates sampleDigest left right := by
  intro same
  have written := congrArg String.toList same
  rw [sampleDigest, sampleDigest, String.toList_ofList, String.toList_ofList] at written
  have spellings := (List.append_inj written (by rw [length_shortDigest, length_shortDigest])).2
  exact String.toList_inj.mp (flatMap_spelled_inj _ _ spellings)

/-- The digest has no blanks. -/
theorem sampleDigest_visible (text : String) : ∀ character ∈ (sampleDigest text).toList,
    BaseModel.whiteSpace character = false := by
  have digits : ∀ digit < 10, BaseModel.whiteSpace (Char.ofNat (48 + digit)) = false := by decide
  intro character inDigest
  rw [sampleDigest, String.toList_ofList, List.mem_append] at inDigest
  rcases inDigest with short | long
  · simp only [shortDigest, Scenario.digest, String.toList_ofList, List.mem_append, List.mem_map,
      or_self] at short
    obtain ⟨place, -, rfl⟩ := short
    exact digits _ (Nat.mod_lt _ (by decide))
  · obtain ⟨spelling, -, inSpelling⟩ := List.mem_flatMap.mp long
    rcases List.mem_append.mp inSpelling with run | mark
    · exact List.eq_of_mem_replicate run ▸ digits 1 (by decide)
    · exact List.mem_singleton.mp mark ▸ digits 0 (by decide)

/-- The digests of the sample have a name's form. -/
theorem sample_digests (text : String) : Named (samplePlatform.scheduler.sha256 text) := by
  apply named_of_visible (sampleDigest_visible text)
  intro empty
  have lengths := congrArg (fun written => written.toList.length) empty
  simp [sampleDigest, length_shortDigest] at lengths

/-- An id of the sample begins with a short digest. -/
theorem shortHash_sample (value : Json) : samplePlatform.shortHash value =
    String.ofList ((shortDigest (canonicalJsonDumps value)).take 24) := by
  have drawn : samplePlatform.shortHash value =
      String.ofList ((sampleDigest (canonicalJsonDumps value)).toList.take 24) := rfl
  rw [drawn, sampleDigest, String.toList_ofList,
    List.take_append_of_le_length (by rw [length_shortDigest]; decide)]

/-- The id of an entry of the sample. -/
def sampleEntryId (number : String) : String :=
  "ule_" ++ samplePlatform.shortHash (entrySeed (.str ("wu_" ++ number)) ("res_" ++ number)
    (some ("vr_" ++ number)) none)

/-- The id of a receipt of the sample. -/
def sampleReceiptId (number : String) : String :=
  receiptId samplePlatform (.str ("res_" ++ number)) (.str (sampleEntryId number))

/-- The ids of the sample differ. -/
theorem sample_ids : sampleEntryId "1" ≠ sampleEntryId "2" ∧
    sampleReceiptId "1" ≠ sampleReceiptId "2" := by
  simp only [sampleEntryId, sampleReceiptId, receiptId, shortHash_sample]
  constructor
  · decide +kernel
  · decide +kernel

/-! ### Its entries and its receipts -/

/-- The routebook of the sample. -/
def sampleRoutebook : Routebook := ⟨"tokenbank.base", "1"⟩

/-- A receipt is asked for a work unit of the sample. -/
def sampleRequest (number : String) : ReceiptRequest :=
  ⟨"wu_" ++ number, none, none, .ok sampleRoutebook, .ok sampleRoutebook⟩

/-- What an entry of the sample takes from its documents. -/
def sampleParts (number : String) : UsageParts :=
  ⟨resultFields number, ⟨0, 0, 0, 0, false⟩, .str ("wu_" ++ number), .str ("run_" ++ number), .null⟩

/-- An entry of the sample. -/
def sampleEntry (number now : String) : UsageLedgerEntry :=
  bareEntry samplePlatform now (sampleCompleted number) (sampleParts number) ("wu_" ++ number)
    ("run_" ++ number) none sampleRoutebook "accept"

/-- The ids of the sample have a name's form. -/
theorem numbered_named {number : String} (listed : number ∈ numbers) :
    ∀ opening ∈ ["wu_", "run_", "rp_", "res_", "vr_", "asg_", "result_"],
      Named (opening ++ number) := by
  revert number
  decide +kernel

/-- The ids of the sample that are drawn from a digest have a name's form. -/
theorem drawnIds_named (number : String) :
    Named (sampleEntryId number) ∧ Named (sampleReceiptId number) := by
  have visible : ∀ text, ∀ character ∈ (samplePlatform.scheduler.sha256 text).toList,
      BaseModel.whiteSpace character = false := sampleDigest_visible
  unfold sampleEntryId sampleReceiptId receiptId
  exact ⟨drawn_named samplePlatform visible "ule_" (by decide) (by decide) _,
    drawn_named samplePlatform visible "ar_" (by decide) (by decide) _⟩

/-- An entry of the sample is built. -/
theorem sampleEntry_built {number : String} (listed : number ∈ numbers) (now : String) :
    buildUsageEntry samplePlatform now (sampleCompleted number) none sampleRoutebook =
      .ok (sampleEntry number now) := by
  have named := numbered_named listed
  simp only [List.forall_mem_cons] at named
  obtain ⟨workUnit, run, route, result, report, -⟩ := named
  refine buildUsageEntry_bare sample_digests now rfl ?_
  exact
    { usageLedgerEntryId := (drawnIds_named number).1
      workUnit := rfl
      workUnitId := workUnit
      run := rfl
      runId := run
      routePlanId := route
      resultEnvelopeId := result
      verifierReportId := fun text same => Option.some.inj same ▸ report
      accountSnapshotId := fun text absent => by cases absent
      routebookId := by decide
      routebookVersion := by decide
      capacityProfileId := rfl
      capacityNodeId := rfl
      backendId := rfl
      providerId := rfl
      modelId := rfl
      recommends := rfl
      recommendation := by decide }

/-- The texts of a receipt of the sample. -/
def sampleTexts (number : String) : ReceiptTexts where
  resultEnvelopeId := "res_" ++ number
  usageLedgerEntryId := sampleEntryId number
  recommendation := "accept"
  workUnitId := "wu_" ++ number
  runId := "run_" ++ number
  routePlanId := "rp_" ++ number
  assignmentId := "asg_" ++ number
  verifierReportId := "vr_" ++ number
  resultHash := "result_" ++ number
  entryHash := (sampleEntry number "").entryHash

/-- A receipt of the sample. -/
def sampleReceipt (number now : String) (previous : Option String) : AuditReceipt :=
  (sampleTexts number).receipt samplePlatform now (sampleAccepted number) previous sampleRoutebook

/-- A receipt of the sample is built. -/
theorem sampleReceipt_built {number : String} (listed : number ∈ numbers) (made now : String)
    {previous : Option String} (previousNamed : ∀ text ∈ previous, Named text) :
    buildReceipt samplePlatform now (sampleAccepted number)
      (.obj (sampleEntry number made).modelDump) previous sampleRoutebook =
      .ok (sampleReceipt number now previous) := by
  have named := numbered_named listed
  simp only [List.forall_mem_cons] at named
  obtain ⟨workUnit, run, route, result, report, assignment, hash, -⟩ := named
  exact ReceiptTexts.buildReceipt_texts sample_digests now rfl
    { resultEnvelopeId := result
      usageLedgerEntryId := (drawnIds_named number).1
      workUnitId := workUnit
      runId := run
      routePlanId := route
      assignmentId := assignment
      verifierReportId := report
      resultHash := hash
      entryHash := sample_digests _ }
    ((drawnIds_named number).2) previousNamed (by decide) (by decide)

/-- What the entries and the receipts of the sample refer to is there. -/
theorem sample_references {number : String} (listed : number ∈ numbers) :
    (samplePlane.db.workUnits.find? ("wu_" ++ number)).isSome = true ∧
    ("rp_" ++ number) ∈ samplePlane.db.routePlans ∧
    (samplePlane.db.resultEnvelopes.find? ("res_" ++ number)).isSome = true ∧
    (samplePlane.results.verifierReports.find? ("vr_" ++ number)).isSome = true := by
  revert number
  decide

/-- An entry of the sample, as it is filed. -/
def filedEntry (number : String) (draws : Draws) : String × UsageLedgerRow :=
  (sampleEntryId number, usageRow (sampleEntry number (draws.utcText 0)))

/-- A receipt of the sample, as it is filed. -/
def filedReceipt (number : String) (draws : Draws) (previous : Option String) :
    String × AuditReceiptRow :=
  (sampleReceiptId number, receiptRow (sampleReceipt number (draws.utcText 2) previous))

/-- The tables of the sample with some entries and some receipts. -/
structure Holds (entries : List (String × UsageLedgerRow))
    (receipts : List (String × AuditReceiptRow)) (plane : LedgerPlane) : Prop where
  documents : SameDocuments samplePlane plane
  entries : plane.usageLedgerEntries.entries = entries
  receipts : plane.auditReceipts.entries = receipts

/-- A receipt whose entry and hash are new is given, with a link to the newest receipt for
another result. Beside the tables only two events are written. -/
theorem sample_gives (number : String) (listed : number ∈ numbers) (draws : Draws)
    {entries : List (String × UsageLedgerRow)} {receipts : List (String × AuditReceiptRow)}
    {plane : LedgerPlane} (holds : Holds entries receipts plane)
    (unlisted : plane.usageLedgerEntries.select (fun _ row =>
      filters (some ("wu_" ++ number)) row.workUnitId && filters none row.runId) = [])
    (newEntry : plane.usageLedgerEntries.find? (sampleEntryId number) = none)
    (newReceipt : plane.auditReceipts.find? (sampleReceiptId number) = none)
    {previous : Option String} (link : previousReceiptHash plane ("res_" ++ number) = previous)
    (previousNamed : ∀ text ∈ previous, Named text)
    (newHash : receiptHashUsed plane (hashOf (filedReceipt number draws previous)) = false)
    (freshEntry : plane.db.eventOutbox.find? ("evt_" ++ draws.uuid 1) = none)
    (freshReceipt : plane.db.eventOutbox.find? ("evt_" ++ draws.uuid 3) = none)
    (apart : "evt_" ++ draws.uuid 3 ≠ "evt_" ++ draws.uuid 1) :
    ∃ answer left, Ensures (createForWorkUnit samplePlatform draws (sampleRequest number)) plane
        (fun result after => result = .ok answer ∧ after = left) ∧
      Holds (entries ++ [filedEntry number draws])
        (receipts ++ [filedReceipt number draws previous]) left ∧
      ∀ eventId, eventId ≠ "evt_" ++ draws.uuid 1 → eventId ≠ "evt_" ++ draws.uuid 3 →
        left.db.eventOutbox.find? eventId = plane.db.eventOutbox.find? eventId := by
  obtain ⟨completed, accepted⟩ := contexts_sample listed
  obtain ⟨sameCompleted, sameAccepted⟩ := holds.documents.contexts ("wu_" ++ number)
  obtain ⟨workUnit, routePlan, result, report⟩ := sample_references listed
  obtain ⟨results, accounts, booked, filed⟩ := plane
  obtain ⟨⟨events, same⟩, rfl, rfl⟩ := holds
  subst link
  obtain rfl : results = samplePlane.results.withEvents events := same
  have listing : listEntries ⟨samplePlane.results.withEvents events, accounts, booked, filed⟩
      (some ("wu_" ++ number)) none = .ok [] := by
    rw [listEntries, listedRows, unlisted, List.mergeSort_nil]
    rfl
  obtain ⟨recorded, ensured, othersRecorded⟩ := ensureUsageEntry_records samplePlatform draws
    (sampleRequest number) rfl (goes_on listing rfl) (sameCompleted.trans completed) rfl
    (sampleEntry_built listed (draws.utcText 0))
    ⟨newEntry, rfl, workUnit, routePlan, result, report, rfl⟩ freshEntry
  let entry := sampleEntry number (draws.utcText 0)
  have inserted := Store.Table.upsert_absent booked (sampleEntryId number) (usageRow entry)
    (rewriteUsage entry) newEntry
  have named : references (booked.upsert (sampleEntryId number) (usageRow entry)
      (rewriteUsage entry)) (some (sampleEntryId number)) = true := by
    rw [references, Store.Table.find?_upsert, if_pos rfl]
    rfl
  obtain ⟨receipts, outbox, appended, given, othersGiven⟩ := createForWorkUnit_gives samplePlatform
    draws (sampleRequest number) (sameAccepted.trans accepted) ensured rfl rfl
    (getReceipt_unused newReceipt)
    (sampleReceipt_built listed (draws.utcText 0) (draws.utcText 2) previousNamed)
    ⟨newReceipt, newHash, workUnit, routePlan, result, report, named⟩
    ((othersRecorded _ apart).trans freshReceipt)
  refine ⟨_, _, given, ⟨⟨outbox, rfl⟩, ?_, appended⟩, ?_⟩
  · exact ((Store.Table.insert_some_iff _ _ _ _).mp inserted).2
  · intro eventId notEntry notReceipt
    exact (othersGiven eventId notReceipt).trans (othersRecorded eventId notEntry)

/-- Where digests tell texts apart, receipts with one hash have one id. -/
theorem id_of_same_hash {platform : ResultsPlatform}
    (digests : ∀ text, Named (platform.scheduler.sha256 text))
    (separates : ∀ left right, Hashes.Separates platform.scheduler.sha256 left right)
    {now other : String} {context contextOther : AcceptedContext} {usage usageOther : Json}
    {previous previousOther : Option String} {routebook routebookOther : Routebook}
    {receipt receiptOther : AuditReceipt}
    (built : buildReceipt platform now context usage previous routebook = .ok receipt)
    (builtOther : buildReceipt platform other contextOther usageOther previousOther routebookOther =
      .ok receiptOther)
    (same : receipt.receiptHash = receiptOther.receiptHash) :
    receipt.auditReceiptId = receiptOther.auditReceiptId := by
  obtain ⟨parts, -, reads⟩ := buildReceipt_ok built
  obtain ⟨partsOther, -, readsOther⟩ := buildReceipt_ok builtOther
  rw [receiptHash_built digests reads, receiptHash_built digests readsOther] at same
  have alike := timeless_of_same_draft (plain_draft reads) (plain_draft readsOther)
    (separates _ _ same) reads readsOther
  exact congrArg (fun receipt => receipt.auditReceiptId) alike

/-- The first receipt of the sample. -/
def firstFiled (draws : Draws) : String × AuditReceiptRow := filedReceipt "1" draws none

/-- The second receipt of the sample, behind the first one. -/
def secondFiled (first second : Draws) : String × AuditReceiptRow :=
  filedReceipt "2" second (some (hashOf (firstFiled first)))

/-- A first receipt is given in the sample. -/
theorem first_reached (first : Draws) (apart : "evt_" ++ first.uuid 3 ≠ "evt_" ++ first.uuid 1) :
    ∃ moves, Holds [filedEntry "1" first] [firstFiled first]
        (reached samplePlatform samplePlane moves).store ∧
      ∀ eventId, eventId ≠ "evt_" ++ first.uuid 1 → eventId ≠ "evt_" ++ first.uuid 3 →
        (reached samplePlatform samplePlane moves).store.db.eventOutbox.find? eventId = none := by
  have blank : Holds [] [] samplePlane := ⟨⟨samplePlane.db.eventOutbox, rfl⟩, rfl, rfl⟩
  obtain ⟨answer, left, given, holds, others⟩ := sample_gives "1" (by decide) first blank rfl rfl
    rfl rfl (fun text absent => by cases absent) rfl rfl rfl apart
  obtain ⟨moves, ends⟩ := asked_reached samplePlatform samplePlane [] given
  rw [List.nil_append] at ends
  refine ⟨moves, ?_⟩
  rw [ends]
  exact ⟨holds, others⟩

/-- After the first receipt of the sample the second one is given, which names the first. -/
theorem second_given (first second : Draws) {plane : LedgerPlane}
    (holds : Holds [filedEntry "1" first] [firstFiled first] plane)
    (freshEntry : plane.db.eventOutbox.find? ("evt_" ++ second.uuid 1) = none)
    (freshReceipt : plane.db.eventOutbox.find? ("evt_" ++ second.uuid 3) = none)
    (apart : "evt_" ++ second.uuid 3 ≠ "evt_" ++ second.uuid 1) :
    ∃ answer left,
      Ensures (createForWorkUnit samplePlatform second (sampleRequest "2")) plane
        (fun result after => result = .ok answer ∧ after = left) ∧
      Holds [filedEntry "1" first, filedEntry "2" second]
        [firstFiled first, secondFiled first second] left := by
  have newEntry : sampleEntryId "2" ≠ sampleEntryId "1" := Ne.symm sample_ids.1
  have newReceipt : sampleReceiptId "2" ≠ sampleReceiptId "1" := Ne.symm sample_ids.2
  have named : ∀ text ∈ some (hashOf (firstFiled first)), Named text := by
    intro text same
    exact Option.some.inj same ▸ sample_digests _
  have newHash : hashOf (firstFiled first) ≠ hashOf (secondFiled first second) := by
    intro same
    exact sample_ids.2 (id_of_same_hash sample_digests sampleDigest_separates
      (sampleReceipt_built (by decide) "" (first.utcText 2) (fun text absent => by cases absent))
      (sampleReceipt_built (by decide) "" (second.utcText 2) named) same)
  obtain ⟨answer, left, given, both, -⟩ := sample_gives "2" (by decide) second holds
    (by rw [Store.Table.select, holds.entries]; rfl)
    (by simp [Store.Table.find?, holds.entries, filedEntry, newEntry])
    (by simp [Store.Table.find?, holds.receipts, firstFiled, filedReceipt, newReceipt])
    (by rw [previousReceiptHash, Store.Table.select, holds.receipts]; rfl) named
    (by
      rw [receiptHashUsed, holds.receipts, List.any_cons, List.any_nil, Bool.or_false,
        decide_eq_false_iff_not]
      exact newHash)
    freshEntry freshReceipt apart
  exact ⟨answer, left, given, both⟩

/-- The two receipts of the sample are given one after the other. -/
theorem both_given (first second : Draws)
    (apart : ["evt_" ++ first.uuid 1, "evt_" ++ first.uuid 3, "evt_" ++ second.uuid 1,
      "evt_" ++ second.uuid 3].Nodup) :
    ∃ front answer left, Holds [filedEntry "1" first] [firstFiled first]
        (reached samplePlatform samplePlane front).store ∧
      Ensures (createForWorkUnit samplePlatform second (sampleRequest "2"))
        (reached samplePlatform samplePlane front).store
        (fun result after => result = .ok answer ∧ after = left) ∧
      Holds [filedEntry "1" first, filedEntry "2" second] [firstFiled first, secondFiled first second]
        left := by
  simp only [List.nodup_cons, List.mem_cons, List.not_mem_nil, or_false, not_or] at apart
  obtain ⟨⟨distinctFirst, entries, receipts⟩, ⟨entriesAfter, receiptsAfter⟩, distinctSecond, -⟩ := apart
  obtain ⟨front, holds, others⟩ := first_reached first (Ne.symm distinctFirst)
  obtain ⟨answer, left, given, both⟩ := second_given first second holds
    (others _ (Ne.symm entries) (Ne.symm entriesAfter))
    (others _ (Ne.symm receipts) (Ne.symm receiptsAfter)) (Ne.symm distinctSecond)
  exact ⟨front, answer, left, holds, given, both⟩

/-- A run of the sample stores the first receipt, and goes on to store the second one. -/
theorem both_reached (first second : Draws)
    (apart : ["evt_" ++ first.uuid 1, "evt_" ++ first.uuid 3, "evt_" ++ second.uuid 1,
      "evt_" ++ second.uuid 3].Nodup) :
    ∃ front moves, Holds [filedEntry "1" first] [firstFiled first]
        (reached samplePlatform samplePlane front).store ∧
      Holds [filedEntry "1" first, filedEntry "2" second] [firstFiled first, secondFiled first second]
        (reached samplePlatform samplePlane (front ++ moves)).store := by
  obtain ⟨front, answer, left, holds, given, both⟩ := both_given first second apart
  obtain ⟨moves, ends⟩ := asked_reached samplePlatform samplePlane front given
  exact ⟨front, moves, holds, ends.symm ▸ both⟩

/-- The events of the sample's calls have different ids. -/
theorem sample_apart : ["evt_" ++ (Scenario.draws 1).uuid 1, "evt_" ++ (Scenario.draws 1).uuid 3,
    "evt_" ++ (Scenario.draws 2).uuid 1, "evt_" ++ (Scenario.draws 2).uuid 3].Nodup := by
  decide +kernel

/-! ## Receipts stay -/

/-- A receipt that was stored or answered at some time is stored ever after, and no two receipts
have one hash. -/
theorem receipts_kept (platform : ResultsPlatform) {plane : LedgerPlane} (blank : Blank plane)
    (front moves : List (Store.Move LedgerOp)) :
    let earlier := reached platform plane front
    let later := reached platform plane (front ++ moves)
    earlier.store.auditReceipts.entries <+: later.store.auditReceipts.entries ∧
      (later.store.auditReceipts.entries.map hashOf).Nodup ∧
      ∀ op answer, (op, .receipt answer) ∈ earlier.replies →
        ∃ entry ∈ later.store.auditReceipts.entries, Shows entry.2 answer := by
  intro earlier later
  have evolves := reached_evolves platform blank front moves
  have sound := (reached_abiding platform blank _ (front ++ moves) List.prefix_rfl).sound
  refine ⟨evolves.receipts, sound.distinct, ?_⟩
  intro op answer replied
  have abiding := reached_abiding platform blank front front List.prefix_rfl
  obtain ⟨met, before, plane, inMet, entry, listed, shown⟩ := abiding.replies _ replied
  have stays := (before plane inMet).receipts.trans evolves.receipts
  exact ⟨entry, stays.subset listed, shown⟩

/-- The first receipt of the sample stays while the second one is given. -/
theorem receipts_kept_sample : ∃ front moves,
    let earlier := reached samplePlatform samplePlane front
    let later := reached samplePlatform samplePlane (front ++ moves)
    earlier.store.auditReceipts.entries.length = 1 ∧ later.store.auditReceipts.entries.length = 2 ∧
    earlier.store.auditReceipts.entries <+: later.store.auditReceipts.entries ∧
      (later.store.auditReceipts.entries.map hashOf).Nodup ∧
      ∀ op answer, (op, .receipt answer) ∈ earlier.replies →
        ∃ entry ∈ later.store.auditReceipts.entries, Shows entry.2 answer := by
  obtain ⟨front, moves, first, both⟩ := both_reached _ _ sample_apart
  exact ⟨front, moves, by rw [first.receipts]; rfl, by rw [both.receipts]; rfl,
    receipts_kept samplePlatform samplePlane_blank front moves⟩

/-! ## Where receipts lead back to -/

/-- A receipt and those that it leads back to, over at most some number of links. -/
def chain (plane : LedgerPlane) (steps : Nat) (entry : String × AuditReceiptRow) :
    List (String × AuditReceiptRow) :=
  Links.history hashOf linkOf plane.auditReceipts.entries steps entry

/-- A receipt leads back, from one to another that was stored before, to one that names none. -/
theorem receipt_chain_ends (platform : ResultsPlatform) {plane : LedgerPlane}
    (blank : Blank plane) (moves : List (Store.Move LedgerOp))
    (before behind : List (String × AuditReceiptRow)) (entry : String × AuditReceiptRow)
    (stored : (reached platform plane moves).store.auditReceipts.entries =
      before ++ entry :: behind) :
    let receipts := chain (reached platform plane moves).store before.length entry
    receipts.reverse.Sublist (before ++ [entry]) ∧
      receipts.IsChain (fun later earlier => linkOf later = some (hashOf earlier)) ∧
      ∃ last, receipts.getLast? = some last ∧ linkOf last = none := by
  have sound := (reached_abiding platform blank _ moves List.prefix_rfl).sound
  exact Links.history_ends sound.linked sound.distinct before.length stored (Nat.le_refl _)

/-- A receipt that names another one leads back to it. -/
theorem chain_of_link {plane : LedgerPlane} {first second : String × AuditReceiptRow}
    (stored : plane.auditReceipts.entries = [first, second]) (unlinked : linkOf first = none)
    (linked : linkOf second = some (hashOf first)) (steps : Nat) :
    chain plane (steps + 1) second = [second, first] := by
  have leads : Links.predecessor hashOf linkOf plane.auditReceipts.entries second = some first := by
    simp [Links.predecessor, linked, stored]
  rw [chain, Links.history, leads]
  exact congrArg (second :: ·) (Links.history_unlinked steps first unlinked)

/-- The second receipt of the sample leads back to the first one, which names none. -/
theorem receipt_chain_ends_sample : ∃ moves first second,
    (reached samplePlatform samplePlane moves).store.auditReceipts.entries = [first, second] ∧
    let receipts := chain (reached samplePlatform samplePlane moves).store 1 second
    receipts = [second, first] ∧ receipts.reverse.Sublist [first, second] ∧
      receipts.IsChain (fun later earlier => linkOf later = some (hashOf earlier)) ∧
      ∃ last, receipts.getLast? = some last ∧ linkOf last = none := by
  obtain ⟨front, moves, -, both⟩ := both_reached _ _ sample_apart
  exact ⟨front ++ moves, _, _, both.receipts, chain_of_link both.receipts rfl rfl 0,
    receipt_chain_ends samplePlatform samplePlane_blank (front ++ moves) [_] [] _ both.receipts⟩

/-! ## What receipts give account of -/

/-- A text was taken from a member of a document, and trimmed. -/
def Taken (document : Json) (key text : String) : Prop :=
  ∃ raw, Json.subscripted document key = .ok (.str raw) ∧ BaseModel.stripped raw = text

/-- The recommendation that a receipt of a status was given on. -/
def recommended : AuditReceiptStatus → String
  | .accepted => "accept"
  | .acceptedWithWarning => "accept_with_warning"

/-- A receipt names the documents of a context, and what was recommended. -/
structure Names (platform : ResultsPlatform) (context : AcceptedContext) (receipt : AuditReceipt) :
    Prop where
  workUnitId : Taken context.workUnitBody "work_unit_id" receipt.workUnitId
  runId : Taken context.workUnitBody "run_id" receipt.runId
  routePlanId : Taken context.routeBody "route_plan_id" receipt.routePlanId
  assignmentId : Taken context.assignmentBody "assignment_id" receipt.assignmentId
  resultEnvelopeId : Taken context.resultBody "result_envelope_id" receipt.resultEnvelopeId
  resultHash : Taken context.resultBody "result_hash" receipt.resultHash
  verifierReportId : Taken context.verifierBody "verifier_report_id" receipt.verifierReportId
  workUnitHash : receipt.workUnitHash =
    canonicalJsonHash platform.scheduler.sha256 context.workUnitBody
  routePlanHash : receipt.routePlanHash =
    canonicalJsonHash platform.scheduler.sha256 context.routeBody
  assignmentHash : receipt.assignmentHash =
    canonicalJsonHash platform.scheduler.sha256 context.assignmentBody
  resultEnvelopeHash : receipt.resultEnvelopeHash =
    canonicalJsonHash platform.scheduler.sha256 context.resultBody
  verifierReportHash : receipt.verifierReportHash =
    canonicalJsonHash platform.scheduler.sha256 context.verifierBody
  recommendation : Json.subscripted context.verifierBody "recommendation" =
    .ok (.str (recommended receipt.status))

/-- A receipt gives account of an accepted result, whose documents were stored, and of an entry
of the ledger. -/
structure Accounts (platform : ResultsPlatform) (passed : LedgerPlane → Prop)
    (receipt : AuditReceipt) : Prop where
  accepted : ∃ workUnitId context, AcceptedFrom passed workUnitId context ∧
    Names platform context receipt
  entry : ∃ entry, Recorded platform passed entry ∧
    receipt.usageLedgerEntryId = some entry.usageLedgerEntryId ∧
    receipt.usageLedgerEntryHash = some entry.entryHash

/-- A text that is read from what was taken of a document was taken from it. -/
theorem taken_of_read {document value : Json} {key text : String}
    (there : Json.subscripted document key = .ok value) (read : nonEmptyStr value = some text) :
    Taken document key text := by
  obtain ⟨⟨raw, rfl, stripped⟩, -⟩ := nonEmptyStr_some read
  exact ⟨raw, there, stripped⟩

/-- A recommendation that a receipt can be given on is one of two. -/
theorem accepted_iff (recommendation : Json) : requireAccepted recommendation = .ok () ↔
    recommendation = .str "accept" ∨ recommendation = .str "accept_with_warning" := by
  cases recommendation with
  | str text =>
    simp only [requireAccepted, acceptedRecommendations, List.mem_cons, List.not_mem_nil, or_false,
      Json.str.injEq]
    split <;> simp_all
  | null => simp [requireAccepted]
  | bool value => simp [requireAccepted]
  | int value => simp [requireAccepted]
  | float text => simp [requireAccepted]
  | arr items => simp [requireAccepted]
  | obj fields => simp [requireAccepted]

/-- The status of a receipt says what was recommended. -/
theorem recommended_receiptStatus {recommendation : Json}
    (accepted : requireAccepted recommendation = .ok ()) :
    recommendation = .str (recommended (receiptStatus recommendation)) := by
  rcases (accepted_iff recommendation).mp accepted with rfl | rfl
  · simp [receiptStatus, Json.same, recommended]
  · simp [receiptStatus, Json.same, recommended]

section Built

variable {platform : ResultsPlatform} {context : AcceptedContext} {usage : Json}
  {previous : Option String} {routebook : Routebook} {receipt : AuditReceipt}
  {library : ModelLibrary} {parts : ReceiptParts}

/-- A built receipt names the documents of its context. -/
theorem names_built (digests : ∀ text, Named (platform.scheduler.sha256 text))
    (taken : parts.TakenFrom context usage)
    (accepted : ∃ members, context.verifierBody = .obj members ∧
      requireAccepted (Json.get members "recommendation") = .ok ())
    (reads : receipt.Reads library
      (hashedDraft platform (receiptPayload platform context parts previous routebook))) :
    Names platform context receipt := by
  have hashed {body : Json} {text : String}
      (read : nonEmptyStr (documentHash platform body) = some text) :
      text = canonicalJsonHash platform.scheduler.sha256 body :=
    Option.some.inj (read.symm.trans (nonEmptyStr_of_named (digests (canonicalJsonDumps body))))
  have status : receipt.status = receiptStatus parts.recommendation :=
    Option.some.inj ((required_member rfl reads.status).symm.trans (literal_receiptStatus _))
  obtain ⟨members, isObject, accepting⟩ := accepted
  have recommending : parts.recommendation = Json.get members "recommendation" := by
    have there := taken.recommendation
    rw [isObject, Json.subscripted, Json.item] at there
    split at there
    · exact (Except.ok.inj there).symm
    · cases there
  rw [← recommending] at accepting
  exact
    { workUnitId := taken_of_read taken.workUnitId (required_member rfl reads.workUnitId)
      runId := taken_of_read taken.runId (required_member rfl reads.runId)
      routePlanId := taken_of_read taken.routePlanId (required_member rfl reads.routePlanId)
      assignmentId := taken_of_read taken.assignmentId (required_member rfl reads.assignmentId)
      resultEnvelopeId := taken_of_read taken.resultEnvelopeId
        (required_member rfl reads.resultEnvelopeId)
      resultHash := taken_of_read taken.resultHash (required_member rfl reads.resultHash)
      verifierReportId := taken_of_read taken.verifierReportId
        (required_member rfl reads.verifierReportId)
      workUnitHash := hashed (required_member rfl reads.workUnitHash)
      routePlanHash := hashed (required_member rfl reads.routePlanHash)
      assignmentHash := hashed (required_member rfl reads.assignmentHash)
      resultEnvelopeHash := hashed (required_member rfl reads.resultEnvelopeHash)
      verifierReportHash := hashed (required_member rfl reads.verifierReportHash)
      recommendation := by
        rw [taken.recommendation, status, ← recommended_receiptStatus accepting] }

/-- A built receipt names the entry whose document it was built with. -/
theorem entry_built {entry : UsageLedgerEntry} (named : Named entry.usageLedgerEntryId)
    (hashNamed : Named entry.entryHash) (document : DocumentOf entry usage)
    (taken : parts.TakenFrom context usage)
    (reads : receipt.Reads library
      (hashedDraft platform (receiptPayload platform context parts previous routebook))) :
    receipt.usageLedgerEntryId = some entry.usageLedgerEntryId ∧
      receipt.usageLedgerEntryHash = some entry.entryHash := by
  have there {key text : String} (here : member entry.modelDump key = some (.str text)) :
      Json.subscripted usage key = .ok (.str text) := by
    rcases document with rfl | loaded
    · exact subscripted_of_member here
    · exact subscripted_loaded (plain_entry entry) here loaded
  have read {value : Json} {text : String} {found : Option String} (named : Named text)
      (same : value = .str text)
      (reads : Validation.optional nonEmptyStr value = some found) : found = some text := by
    subst same
    exact optional_named (fun other given => Option.some.inj given ▸ named) reads
  have idThere : Json.subscripted usage "usage_ledger_entry_id" =
      .ok (.str entry.usageLedgerEntryId) := there rfl
  have hashThere : Json.subscripted usage "entry_hash" = .ok (.str entry.entryHash) := there rfl
  have id := Except.ok.inj (taken.usageLedgerEntryId.symm.trans idThere)
  have hash := Except.ok.inj (taken.entryHash.symm.trans hashThere)
  exact ⟨read named id (defaulted_member rfl reads.usageLedgerEntryId),
    read hashNamed hash (defaulted_member rfl reads.usageLedgerEntryHash)⟩

end Built

/-- Every receipt was given for a succeeded result that the newest report on it recommended to
accept, and names by their ids and hashes the documents that were stored, and the entry of the
ledger that was built of such documents. -/
theorem receipts_accepted (platform : ResultsPlatform)
    (digests : ∀ text, Named (platform.scheduler.sha256 text)) {plane : LedgerPlane}
    (blank : Blank plane) (moves : List (Store.Move LedgerOp)) :
    ∀ entry ∈ (reached platform plane moves).store.auditReceipts.entries,
      ∃ receipt, entry = (receipt.auditReceiptId, receiptRow receipt) ∧
        Accounts platform (Passed platform plane moves) receipt := by
  intro entry listed
  have sound := (reached_abiding platform blank _ moves List.prefix_rfl).sound
  obtain ⟨now, context, usage, previous, routebook, receipt, drafted, built, filed, row⟩ :=
    sound.attested entry listed
  obtain ⟨parts, took, reads⟩ := buildReceipt_ok built
  have taken := receiptParts_ok took
  obtain ⟨workUnitId, accepted⟩ := drafted.accepted
  obtain ⟨used, recorded, document⟩ := drafted.entry
  obtain ⟨-, -, -, members, -, -, -, isObject, accepting⟩ := accepted.report
  refine ⟨receipt, Prod.ext filed row, ⟨workUnitId, context, accepted,
    names_built digests taken ⟨members, isObject, accepting⟩ reads⟩, used, recorded, ?_⟩
  exact entry_built recorded.named.1 recorded.named.2 document taken reads

/-- Both receipts of the sample were given for accepted results, and the second one names the
first. -/
theorem receipts_accepted_sample : ∃ moves first second,
    (reached samplePlatform samplePlane moves).store.auditReceipts.entries = [first, second] ∧
    linkOf second = some (hashOf first) ∧
    ∀ entry ∈ [first, second], ∃ receipt, entry = (receipt.auditReceiptId, receiptRow receipt) ∧
      Accounts samplePlatform (Passed samplePlatform samplePlane moves) receipt := by
  obtain ⟨front, moves, -, both⟩ := both_reached _ _ sample_apart
  refine ⟨front ++ moves, _, _, both.receipts, rfl, ?_⟩
  rw [← both.receipts]
  exact receipts_accepted samplePlatform sample_digests samplePlane_blank (front ++ moves)

/-! ## What a hash commits to -/

/-- A text that the hash of a receipt is taken of, for one that can be built in a run. -/
def DraftText (platform : ResultsPlatform) (passed : LedgerPlane → Prop) (text : String) : Prop :=
  ∃ context usage previous routebook parts, Drafted platform passed context usage previous ∧
    receiptParts context usage = .ok parts ∧
    text = canonicalJsonDumps (.obj (receiptPayload platform context parts previous routebook))

/-- A document without the time it was made at. -/
def withoutTime : Json → Json
  | .obj fields => .obj (fields.filter (fun field => field.1 ≠ "created_at"))
  | value => value

/-- What a stored receipt says, but for the time it was made at. -/
def content (entry : String × AuditReceiptRow) : String × AuditReceiptRow :=
  (entry.1, { entry.2 with body := withoutTime entry.2.body, createdAt := "" })

/-- The time a receipt was made at is not part of what it says. -/
theorem content_timeless (receipt : AuditReceipt) :
    content (receipt.auditReceiptId, receiptRow receipt) =
      content ((timeless receipt).auditReceiptId, receiptRow (timeless receipt)) := rfl

/-- Two stored receipts with one hash say the same, if digests tell apart what receipts are
built of. -/
theorem content_of_same_hash {platform : ResultsPlatform} {passed passedOther : LedgerPlane → Prop}
    (digests : ∀ text, Named (platform.scheduler.sha256 text))
    (separates : ∀ left right, DraftText platform passed left →
      DraftText platform passedOther right → Hashes.Separates platform.scheduler.sha256 left right)
    {entry other : String × AuditReceiptRow} (attested : Attested platform passed entry.1 entry.2)
    (attestedOther : Attested platform passedOther other.1 other.2)
    (same : hashOf entry = hashOf other) :
    content entry = content other ∧ linkOf entry = linkOf other := by
  obtain ⟨now, context, usage, previous, routebook, receipt, drafted, built, filed, row⟩ := attested
  obtain ⟨nowOther, contextOther, usageOther, previousOther, routebookOther, receiptOther,
    draftedOther, builtOther, filedOther, rowOther⟩ := attestedOther
  obtain rfl : entry = (receipt.auditReceiptId, receiptRow receipt) := Prod.ext filed row
  obtain rfl : other = (receiptOther.auditReceiptId, receiptRow receiptOther) :=
    Prod.ext filedOther rowOther
  obtain ⟨parts, took, reads⟩ := buildReceipt_ok built
  obtain ⟨partsOther, tookOther, readsOther⟩ := buildReceipt_ok builtOther
  have sameDigest : draftHash platform (receiptPayload platform context parts previous routebook) =
      draftHash platform
        (receiptPayload platform contextOther partsOther previousOther routebookOther) := by
    rw [← receiptHash_built digests reads, ← receiptHash_built digests readsOther]
    exact same
  have sameText := separates _ _
    ⟨context, usage, previous, routebook, parts, drafted, took, rfl⟩
    ⟨contextOther, usageOther, previousOther, routebookOther, partsOther, draftedOther, tookOther,
      rfl⟩ sameDigest
  have alike := timeless_of_same_draft (plain_draft reads) (plain_draft readsOther) sameText reads
    readsOther
  constructor
  · rw [content_timeless receipt, alike]
    exact (content_timeless receiptOther).symm
  · exact congrArg (fun receipt => receipt.previousReceiptHash) alike

/-- The hash of a receipt commits to all it says and to all it leads back to: where digests tell
apart what receipts are built of, receipts with one hash, of one run or of two, lead back over
the same receipts. -/
theorem receipt_commits (platform : ResultsPlatform)
    (digests : ∀ text, Named (platform.scheduler.sha256 text)) {plane other : LedgerPlane}
    (blank : Blank plane) (blankOther : Blank other) (moves others : List (Store.Move LedgerOp))
    (separates : ∀ left right, DraftText platform (Passed platform plane moves) left →
      DraftText platform (Passed platform other others) right →
      Hashes.Separates platform.scheduler.sha256 left right) :
    ∀ entry ∈ (reached platform plane moves).store.auditReceipts.entries,
      ∀ otherEntry ∈ (reached platform other others).store.auditReceipts.entries,
      hashOf entry = hashOf otherEntry →
      ∀ steps, (reached platform plane moves).store.auditReceipts.entries.length ≤ steps →
        (chain (reached platform plane moves).store steps entry).map content =
          (chain (reached platform other others).store steps otherEntry).map content := by
  intro entry listed otherEntry listedOther same steps enough
  have sound := (reached_abiding platform blank _ moves List.prefix_rfl).sound
  have soundOther := (reached_abiding platform blankOther _ others List.prefix_rfl).sound
  obtain ⟨front, behind, placed⟩ := List.mem_iff_append.mp listed
  obtain ⟨frontOther, behindOther, placedOther⟩ := List.mem_iff_append.mp listedOther
  refine Links.history_agrees content sound.linked sound.distinct soundOther.linked
    soundOther.distinct ?_ steps placed placedOther ?_ same
  · intro item inItems otherItem inOthers alike
    exact content_of_same_hash digests separates (sound.attested item inItems)
      (soundOther.attested otherItem inOthers) alike
  · rw [placed, List.length_append] at enough
    omega

/-- The time a receipt of the sample is given at is not part of its hash. -/
theorem hashOf_filedReceipt (number : String) (draws other : Draws) (previous : Option String) :
    hashOf (filedReceipt number draws previous) = hashOf (filedReceipt number other previous) := by
  simp only [hashOf, filedReceipt, receiptRow, sampleReceipt, ReceiptTexts.receipt]

theorem hashOf_secondFiled (first second firstOther secondOther : Draws) :
    hashOf (secondFiled first second) = hashOf (secondFiled firstOther secondOther) := by
  rw [secondFiled, secondFiled, firstFiled, firstFiled, hashOf_filedReceipt "1" first firstOther]
  exact hashOf_filedReceipt "2" second secondOther _

/-- In two runs of the sample at different times, the second receipts have one hash, and lead
back over two receipts that say the same. -/
theorem receipt_commits_sample : ∃ moves others first second firstOther secondOther,
    let plane := (reached samplePlatform samplePlane moves).store
    let planeOther := (reached samplePlatform samplePlane others).store
    plane.auditReceipts.entries = [first, second] ∧
    planeOther.auditReceipts.entries = [firstOther, secondOther] ∧
    linkOf second = some (hashOf first) ∧ hashOf second = hashOf secondOther ∧
    second.2.createdAt ≠ secondOther.2.createdAt ∧
    chain plane 2 second = [second, first] ∧
    (chain plane 2 second).map content = (chain planeOther 2 secondOther).map content := by
  have apart : ["evt_" ++ (Scenario.draws 3).uuid 1, "evt_" ++ (Scenario.draws 3).uuid 3,
      "evt_" ++ (Scenario.draws 4).uuid 1, "evt_" ++ (Scenario.draws 4).uuid 3].Nodup := by
    decide +kernel
  have times : (Scenario.draws 2).utcText 2 ≠ (Scenario.draws 4).utcText 2 := by decide +kernel
  have same := hashOf_secondFiled (Scenario.draws 1) (Scenario.draws 2) (Scenario.draws 3)
    (Scenario.draws 4)
  obtain ⟨front, moves, -, both⟩ := both_reached _ _ sample_apart
  obtain ⟨frontOther, movesOther, -, bothOther⟩ := both_reached _ _ apart
  refine ⟨front ++ moves, frontOther ++ movesOther, _, _, _, _, both.receipts, bothOther.receipts,
    rfl, same, times, chain_of_link both.receipts rfl rfl 1, ?_⟩
  refine receipt_commits samplePlatform sample_digests samplePlane_blank samplePlane_blank
    (front ++ moves) (frontOther ++ movesOther)
    (fun left right _ _ => sampleDigest_separates left right) _ ?_ _ ?_ same 2 ?_
  · rw [both.receipts]
    exact List.mem_cons_of_mem _ List.mem_cons_self
  · rw [bothOther.receipts]
    exact List.mem_cons_of_mem _ List.mem_cons_self
  · rw [both.receipts]
    exact Nat.le_refl 2

end Audit

end TokenBank
