import TokenBank.Audit.Fields
import TokenBank.Audit.System
import TokenBank.Ledger.Fields
import TokenBank.Order.Links

/-!
# How the tables of the ledger evolve

Whatever calls are in progress, receipts are appended and never changed, and of an entry the
columns that say what it is about are never changed. Every entry and every receipt was built
of documents that were stored, and every receipt names another one before it, or none.
-/

namespace TokenBank

namespace Audit

open Ledger Validation

/-- The hash of a stored receipt. -/
def hashOf (entry : String × AuditReceiptRow) : String := entry.2.receiptHash

/-- The hash of the receipt that a stored receipt names. -/
def linkOf (entry : String × AuditReceiptRow) : Option String := entry.2.previousReceiptHash

/-- The columns of an entry that say what it is about. -/
def subject (row : UsageLedgerRow) : String × String × String × String × String :=
  (row.workUnitId, row.runId, row.routePlanId, row.resultEnvelopeId, row.createdAt)

section Rules

variable (platform : ResultsPlatform) (passed : LedgerPlane → Prop)

/-- What holds of the tables of the ledger. -/
structure Sound (plane : LedgerPlane) : Prop where
  booked : ∀ key row, plane.usageLedgerEntries.find? key = some row →
    Booked platform passed key row
  attested : ∀ entry ∈ plane.auditReceipts.entries, Attested platform passed entry.1 entry.2
  linked : Links.Linked hashOf linkOf plane.auditReceipts.entries
  distinct : (plane.auditReceipts.entries.map hashOf).Nodup

/-- How the tables of the ledger change. -/
structure Evolves (before after : LedgerPlane) : Prop where
  receipts : before.auditReceipts.entries <+: after.auditReceipts.entries
  entries : ∀ key row, before.usageLedgerEntries.find? key = some row →
    ∃ later, after.usageLedgerEntries.find? key = some later ∧ subject later = subject row
  accounts : ∀ key row, before.accountSnapshots.find? key = some row →
    ∃ later, after.accountSnapshots.find? key = some later ∧ later.createdAt = row.createdAt

theorem Evolves.refl (plane : LedgerPlane) : Evolves plane plane :=
  ⟨List.prefix_rfl, fun _ row found => ⟨row, found, rfl⟩, fun _ row found => ⟨row, found, rfl⟩⟩

variable {platform passed} {before between after : LedgerPlane}

theorem Evolves.trans (first : Evolves before between) (second : Evolves between after) :
    Evolves before after where
  receipts := first.receipts.trans second.receipts
  entries key row found := by
    obtain ⟨later, there, kept⟩ := first.entries key row found
    obtain ⟨last, stored, same⟩ := second.entries key later there
    exact ⟨last, stored, same.trans kept⟩
  accounts key row found := by
    obtain ⟨later, there, kept⟩ := first.accounts key row found
    obtain ⟨last, stored, same⟩ := second.accounts key later there
    exact ⟨last, stored, same.trans kept⟩

variable (platform passed)

/-- The regime of the ledger. -/
def regime : Store.Regime LedgerPlane where
  passed := passed
  sound := Sound platform passed
  evolves := Evolves
  refl := Evolves.refl
  trans _ _ _ first second := first.trans second

variable {platform passed}

/-! ## Writes -/

/-- Tables outside the ledger do not matter. -/
theorem sound_results (sound : Sound platform passed before) (results : ResultsPlane) :
    Sound platform passed { before with results := results } :=
  ⟨sound.booked, sound.attested, sound.linked, sound.distinct⟩

theorem evolves_results (results : ResultsPlane) :
    Evolves before { before with results := results } :=
  ⟨List.prefix_rfl, fun _ row found => ⟨row, found, rfl⟩, fun _ row found => ⟨row, found, rfl⟩⟩

/-- A snapshot replaces all of an earlier one but the time it was stored at. -/
theorem evolves_snapshot (results : ResultsPlane) (key : String) (row : AccountSnapshotRow) :
    Evolves before { before with
      results := results
      accountSnapshots := before.accountSnapshots.upsert key row
        (fun stored => { row with createdAt := stored.createdAt }) } where
  receipts := List.prefix_rfl
  entries _ row found := ⟨row, found, rfl⟩
  accounts asked stored found := by
    simp only [Store.Table.find?_upsert]
    split
    · rename_i same
      subst same
      rw [found]
      exact ⟨_, rfl, rfl⟩
    · exact ⟨stored, found, rfl⟩

/-- A recorded entry keeps what the entry under its id is about. -/
theorem evolves_entry (results : ResultsPlane) (entry : UsageLedgerEntry) :
    Evolves before { before with
      results := results
      usageLedgerEntries := before.usageLedgerEntries.upsert entry.usageLedgerEntryId
        (usageRow entry) (rewriteUsage entry) } where
  receipts := List.prefix_rfl
  entries asked stored found := by
    simp only [Store.Table.find?_upsert]
    split
    · rename_i same
      subst same
      rw [found]
      exact ⟨_, rfl, rfl⟩
    · exact ⟨stored, found, rfl⟩
  accounts _ row found := ⟨row, found, rfl⟩

/-- Recording an entry that was built of stored documents keeps the tables sound. -/
theorem sound_entry (sound : Sound platform passed before) (results : ResultsPlane)
    (entry : UsageLedgerEntry) (recorded : Recorded platform passed entry) :
    Sound platform passed { before with
      results := results
      usageLedgerEntries := before.usageLedgerEntries.upsert entry.usageLedgerEntryId
        (usageRow entry) (rewriteUsage entry) } where
  booked asked row found := by
    simp only [Store.Table.find?_upsert] at found
    split at found
    · rename_i same
      subst same
      cases stored : before.usageLedgerEntries.find? entry.usageLedgerEntryId with
      | none =>
        simp only [stored, Option.map_none, Option.getD_none, Option.some.injEq] at found
        exact ⟨entry, entry, recorded, recorded, rfl, rfl, found.symm⟩
      | some old =>
        simp only [stored, Option.map_some, Option.getD_some, Option.some.injEq] at found
        obtain ⟨first, last, firstRecorded, -, firstKey, -, rfl⟩ := sound.booked _ old stored
        exact ⟨first, entry, firstRecorded, recorded, firstKey, rfl, found.symm⟩
    · exact sound.booked asked row found
  attested := sound.attested
  linked := sound.linked
  distinct := sound.distinct

/-- An inserted receipt comes after all others. -/
theorem evolves_receipt (results : ResultsPlane) (key : String) (row : AuditReceiptRow)
    (receipts : Store.Table String AuditReceiptRow)
    (inserted : before.auditReceipts.insert key row = some receipts) :
    Evolves before { before with results := results, auditReceipts := receipts } where
  receipts := by
    rw [((Store.Table.insert_some_iff _ _ _ _).mp inserted).2]
    exact List.prefix_append _ _
  entries _ row found := ⟨row, found, rfl⟩
  accounts _ row found := ⟨row, found, rfl⟩

/-- Inserting a receipt that names another one before it keeps the tables sound. -/
theorem sound_receipt (sound : Sound platform passed before) (results : ResultsPlane)
    (receipt : AuditReceipt) (receipts : Store.Table String AuditReceiptRow)
    (inserted : before.auditReceipts.insert receipt.auditReceiptId (receiptRow receipt) =
      some receipts)
    (unused : receiptHashUsed before receipt.receiptHash = false)
    (attested : Attested platform passed receipt.auditReceiptId (receiptRow receipt))
    (leads : ∀ target, receipt.previousReceiptHash = some target →
      ∃ earlier ∈ before.auditReceipts.entries, hashOf earlier = target) :
    Sound platform passed { before with results := results, auditReceipts := receipts } := by
  have appended := ((Store.Table.insert_some_iff _ _ _ _).mp inserted).2
  refine ⟨sound.booked, ?_, ?_, ?_⟩
  · intro entry member
    rw [appended] at member
    rcases List.mem_append.mp member with old | new
    · exact sound.attested entry old
    · obtain rfl := List.mem_singleton.mp new
      exact attested
  · rw [appended]
    exact sound.linked.concat _ _ _ leads
  · rw [appended, List.map_append, List.map_singleton]
    have absent : receipt.receiptHash ∉ before.auditReceipts.entries.map hashOf := by
      intro used
      obtain ⟨entry, member, same⟩ := List.mem_map.mp used
      simp only [receiptHashUsed, List.any_eq_false, decide_eq_true_eq] at unused
      exact unused entry member same
    exact List.nodup_append.mpr ⟨sound.distinct, List.nodup_singleton _, by
      intro hash used other new same
      obtain rfl := List.mem_singleton.mp new
      have own : hash = receipt.receiptHash := same
      exact absent (own ▸ used)⟩

/-! ## Calls -/

/-- A value that was asked for a member is an object. -/
theorem asked_ok {value : Json} {members : JsonObject} (asked : Json.asked value = .ok members) :
    value = .obj members := by
  cases value with
  | obj fields => rw [Except.ok.inj asked]
  | null => cases asked
  | bool value => cases asked
  | int value => cases asked
  | float text => cases asked
  | str text => cases asked
  | arr items => cases asked

/-- The row of a query that had to find one was found. -/
theorem requiredRow_ok {α : Type} {found : Option α} {message : String} {row : α}
    (required : requiredRow found message = .ok row) : found = some row := by
  cases found with
  | none => cases required
  | some value => rw [Except.ok.inj required]

/-- What is made of the items of a list one by one is made of one of them each. -/
theorem mem_mapM_ok {α β : Type} {make : α → Except Raised β} {items : List α}
    {made : List β} (all : items.mapM make = .ok made) {value : β} (member : value ∈ made) :
    ∃ item ∈ items, make item = .ok value := by
  induction items generalizing made with
  | nil =>
    obtain rfl := Except.ok.inj all
    cases member
  | cons item rest inductionHypothesis =>
    rw [List.mapM_cons] at all
    obtain ⟨head, here, later⟩ := (Store.bind_ok_iff _ _ _).mp all
    obtain ⟨others, there, returned⟩ := (Store.bind_ok_iff _ _ _).mp later
    obtain rfl := Except.ok.inj returned
    rcases List.mem_cons.mp member with rfl | old
    · exact ⟨item, List.mem_cons_self, here⟩
    · obtain ⟨other, inRest, makes⟩ := inductionHypothesis there old
      exact ⟨other, List.mem_cons_of_mem item inRest, makes⟩

/-- An entry that a receipt can use is the one listed first. -/
theorem usableEntry_some {accountSnapshotId : Option String} {entries : List UsageAnswer}
    {answer : UsageAnswer} (chosen : usableEntry accountSnapshotId entries = .ok (some answer)) :
    ∃ others, entries = answer :: others := by
  cases entries with
  | nil => cases chosen
  | cons latest others =>
    obtain ⟨body, -, returned⟩ := (Store.bind_ok_iff _ _ _).mp chosen
    dsimp only at returned
    split at returned
    · obtain rfl := Option.some.inj (Except.ok.inj returned)
      exact ⟨others, rfl⟩
    · cases Except.ok.inj returned

/-- A listed row is a stored one. -/
theorem listedRows_stored {plane : LedgerPlane} {workUnitId runId : Option String}
    {entry : String × UsageLedgerRow} (listed : entry ∈ listedRows plane workUnitId runId) :
    plane.usageLedgerEntries.find? entry.1 = some entry.2 := by
  have selected := (List.mergeSort_perm _ _).mem_iff.mp listed
  exact (Store.Table.mem_entries_iff _ _ _).mp (List.mem_filter.mp selected).1

/-- An entry that a receipt can use is a stored one. -/
theorem usableEntry_listed {plane : LedgerPlane} {workUnitId runId accountSnapshotId : Option String}
    {entries : List UsageAnswer} {answer : UsageAnswer}
    (listed : listEntries plane workUnitId runId = .ok entries)
    (chosen : usableEntry accountSnapshotId entries = .ok (some answer)) :
    ∃ entry : String × UsageLedgerRow, plane.usageLedgerEntries.find? entry.1 = some entry.2 ∧
      usageAnswer entry.2 = .ok answer := by
  obtain ⟨others, rfl⟩ := usableEntry_some chosen
  obtain ⟨entry, inRows, answered⟩ := mem_mapM_ok listed List.mem_cons_self
  exact ⟨entry, listedRows_stored inRows, answered⟩

/-- A stored entry that is answered has the document of an entry built of stored documents. -/
theorem documentOf_answer {plane : LedgerPlane} (sound : Sound platform passed plane)
    {key : String} {row : UsageLedgerRow} (found : plane.usageLedgerEntries.find? key = some row)
    {answer : UsageAnswer} (answered : usageAnswer row = .ok answer) :
    ∃ entry, Recorded platform passed entry ∧ DocumentOf entry answer.body := by
  obtain ⟨body, loaded, returned⟩ := (Store.bind_ok_iff _ _ _).mp answered
  obtain rfl := Except.ok.inj returned
  obtain ⟨first, last, -, recorded, -, -, rfl⟩ := sound.booked key row found
  exact ⟨last, recorded, .inr loaded⟩

/-- An answer shows a stored receipt, as it was written or as it is read back. -/
def Shows (row : AuditReceiptRow) (answer : ReceiptAnswer) : Prop :=
  answer.receiptHash = row.receiptHash ∧
    (answer.body = row.body ∨ loads row.body = .ok answer.body)

/-- A receipt that was looked up by its id is shown. -/
theorem shown_of_got {plane : LedgerPlane} {key : String} {answer : ReceiptAnswer}
    (got : getReceipt plane key = .ok (some answer)) :
    ∃ entry ∈ plane.auditReceipts.entries, Shows entry.2 answer := by
  unfold getReceipt at got
  split at got
  · cases Except.ok.inj got
  · rename_i row found
    obtain ⟨stored, answered, same⟩ := (Store.map_ok_iff _ _ _).mp got
    obtain rfl := Option.some.inj same
    obtain ⟨body, loaded, returned⟩ := (Store.bind_ok_iff _ _ _).mp answered
    obtain rfl := Except.ok.inj returned
    exact ⟨(key, row), (Store.Table.mem_entries_iff _ _ _).mpr found, rfl, .inr loaded⟩

/-- The hash that a new receipt names is that of a stored receipt. -/
theorem previousReceiptHash_some {plane : LedgerPlane} {resultEnvelopeId target : String}
    (names : previousReceiptHash plane resultEnvelopeId = some target) :
    ∃ entry ∈ plane.auditReceipts.entries, hashOf entry = target := by
  obtain ⟨entry, newest, same⟩ := Option.map_eq_some_iff.mp names
  have listed := (Store.newest_spec _ _ _ newest).1
  exact ⟨entry, (List.mem_filter.mp listed).1, same⟩

/-- The hash that a new receipt names has a name's form. -/
theorem previous_named {plane : LedgerPlane} (sound : Sound platform passed plane)
    (resultEnvelopeId : String) :
    ∀ text ∈ previousReceiptHash plane resultEnvelopeId, Named text := by
  intro text names
  obtain ⟨entry, listed, same⟩ := previousReceiptHash_some names
  obtain ⟨now, context, usage, previous, routebook, receipt, -, built, -, filed⟩ :=
    sound.attested entry listed
  rw [← same, hashOf, filed]
  exact receiptHash_named built

section Calls

variable {α : Type} {post : List LedgerPlane → Except Raised α → Prop}
  (fails : ∀ met error, post met (.error error))

include fails

/-- A call that reads the context of an entry goes on with documents that were stored. -/
theorem abides_completedContext (met : List LedgerPlane) (workUnitId : String)
    (rest : CompletedContext → Store.Client LedgerPlane Raised α)
    (goes : ∀ met context, CompletedFrom passed workUnitId context →
      Store.Abides (regime platform passed) post met (rest context)) :
    Store.Abides (regime platform passed) post met (completedContext workUnitId >>= rest) := by
  simp only [completedContext, bind_assoc, pure_bind]
  refine Store.abides_fetch _ _ _ _ _ ?_ (fun _ _ error _ => fails _ error)
  intro first firstMeets workUnit found
  refine Store.abides_fetch _ _ _ _ _ ?_ (fun _ _ error _ => fails _ error)
  intro second secondMeets result newest
  refine Store.abides_fetch _ _ _ _ _ ?_ (fun _ _ error _ => fails _ error)
  intro third thirdMeets route planned
  refine Store.abides_fetch _ _ _ _ _ ?_ (fun _ _ error _ => fails _ error)
  intro fourth fourthMeets report reported
  refine Store.abides_ofExcept _ _ _ _ _ ?_ (fun error _ => fails _ error)
  intro workUnitBody workUnitLoaded
  refine Store.abides_ofExcept _ _ _ _ _ ?_ (fun error _ => fails _ error)
  intro routeBody routeLoaded
  refine Store.abides_ofExcept _ _ _ _ _ ?_ (fun error _ => fails _ error)
  intro resultBody resultLoaded
  refine Store.abides_ofExcept _ _ _ _ _ ?_ (fun error _ => fails _ error)
  intro verifierBody reportLoaded
  obtain rfl := Except.ok.inj reported
  exact goes _ _
    { workUnit := ⟨first, workUnit, firstMeets.passed, requiredRow_ok found, workUnitLoaded⟩
      result := ⟨second, result.2, secondMeets.passed, requiredRow_ok newest, resultLoaded⟩
      route := ⟨third, route.2, thirdMeets.passed, requiredRow_ok planned, routeLoaded⟩
      report := ⟨fourth, fourthMeets.passed, rfl, reportLoaded⟩ }

/-- A call that reads the context of a receipt goes on with documents that were stored, and a
report that recommended to accept the result. -/
theorem abides_acceptedContext (met : List LedgerPlane) (workUnitId : String)
    (rest : AcceptedContext → Store.Client LedgerPlane Raised α)
    (goes : ∀ met context, AcceptedFrom passed workUnitId context →
      Store.Abides (regime platform passed) post met (rest context)) :
    Store.Abides (regime platform passed) post met (acceptedContext workUnitId >>= rest) := by
  simp only [acceptedContext, bind_assoc, pure_bind]
  refine Store.abides_fetch _ _ _ _ _ ?_ (fun _ _ error _ => fails _ error)
  intro first firstMeets workUnit found
  refine Store.abides_fetch _ _ _ _ _ ?_ (fun _ _ error _ => fails _ error)
  intro second secondMeets result newest
  refine Store.abides_fetch _ _ _ _ _ ?_ (fun _ _ error _ => fails _ error)
  intro third thirdMeets report reported
  refine Store.abides_ofExcept _ _ _ _ _ ?_ (fun error _ => fails _ error)
  intro verifierBody reportLoaded
  refine Store.abides_ofExcept _ _ _ _ _ ?_ (fun error _ => fails _ error)
  intro members isObject
  refine Store.abides_ofExcept _ _ _ _ _ ?_ (fun error _ => fails _ error)
  intro accepted recommended
  refine Store.abides_fetch _ _ _ _ _ ?_ (fun _ _ error _ => fails _ error)
  intro fourth fourthMeets route planned
  refine Store.abides_fetch _ _ _ _ _ ?_ (fun _ _ error _ => fails _ error)
  intro fifth fifthMeets assignment assigned
  refine Store.abides_ofExcept _ _ _ _ _ ?_ (fun error _ => fails _ error)
  intro workUnitBody workUnitLoaded
  refine Store.abides_ofExcept _ _ _ _ _ ?_ (fun error _ => fails _ error)
  intro routeBody routeLoaded
  refine Store.abides_ofExcept _ _ _ _ _ ?_ (fun error _ => fails _ error)
  intro assignmentBody assignmentLoaded
  refine Store.abides_ofExcept _ _ _ _ _ ?_ (fun error _ => fails _ error)
  intro resultBody resultLoaded
  exact goes _ _
    { workUnit := ⟨first, workUnit, firstMeets.passed, requiredRow_ok found, workUnitLoaded⟩
      result := ⟨second, result.2, fifth, assignment, secondMeets.passed, requiredRow_ok newest,
        resultLoaded, fifthMeets.passed, requiredRow_ok assigned, assignmentLoaded⟩
      report := ⟨third, report.1, report.2, members, thirdMeets.passed, requiredRow_ok reported,
        reportLoaded, asked_ok isObject, recommended⟩
      route := ⟨fourth, route.1, route.2, fourthMeets.passed, requiredRow_ok planned,
        routeLoaded⟩ }

/-- A call that records usage goes on with the document of an entry that is stored. -/
theorem abides_recordForWorkUnit (met : List LedgerPlane) (draws : Draws) (workUnitId : String)
    (accountSnapshotId : Option String) (routebook : Except Raised Routebook)
    (rest : UsageAnswer → Store.Client LedgerPlane Raised α)
    (goes : ∀ met entry, Recorded platform passed entry →
      (∃ plane ∈ met, ∃ row, plane.usageLedgerEntries.find? entry.usageLedgerEntryId = some row) →
      Store.Abides (regime platform passed) post met
        (rest ⟨.obj entry.modelDump, entry.entryHash, none⟩)) :
    Store.Abides (regime platform passed) post met
      (recordForWorkUnit platform draws workUnitId accountSnapshotId routebook >>= rest) := by
  simp only [recordForWorkUnit, upsertEntry, bind_assoc, pure_bind]
  refine abides_completedContext fails _ _ _ ?_
  intro met context completed
  refine Store.abides_ofExcept _ _ _ _ _ ?_ (fun error _ => fails _ error)
  intro routebook loaded
  refine Store.abides_ofExcept _ _ _ _ _ ?_ (fun error _ => fails _ error)
  intro entry built
  have recorded : Recorded platform passed entry :=
    ⟨_, workUnitId, context, accountSnapshotId, routebook, completed, built⟩
  refine Store.abides_transaction _ _ _ _ _ _ ?_ (fun _ _ error _ => fails _ error)
  intro plane meets value changed stored
  obtain ⟨outbox, rfl⟩ := upsertEntryWrites_ok draws entry plane changed value stored
  refine ⟨sound_entry meets.sound _ entry recorded, evolves_entry _ entry, ?_⟩
  have filed := Store.Table.find?_upsert plane.usageLedgerEntries entry.usageLedgerEntryId
    entry.usageLedgerEntryId (usageRow entry) (rewriteUsage entry)
  rw [if_pos rfl] at filed
  exact goes _ entry recorded ⟨_, List.mem_append_right _ (List.mem_cons_of_mem _
    List.mem_cons_self), _, filed⟩

/-- A call that looks for an entry goes on with the document of an entry built of stored
documents. -/
theorem abides_ensureUsageEntry (met : List LedgerPlane) (draws : Draws) (request : ReceiptRequest)
    (rest : UsageAnswer → Store.Client LedgerPlane Raised α)
    (goes : ∀ met answer, (∃ entry, Recorded platform passed entry ∧
        DocumentOf entry answer.body) →
      Store.Abides (regime platform passed) post met (rest answer)) :
    Store.Abides (regime platform passed) post met
      (ensureUsageEntry platform draws request >>= rest) := by
  cases asked : request.usageLedgerEntryId with
  | some usageLedgerEntryId =>
    simp only [ensureUsageEntry, asked]
    refine Store.abides_fetch _ _ _ _ _ ?_ (fun _ _ error _ => fails _ error)
    intro plane meets answer required
    refine goes _ answer ?_
    obtain ⟨entry, got, returned⟩ := (Store.bind_ok_iff _ _ _).mp required
    cases found : plane.usageLedgerEntries.find? usageLedgerEntryId with
    | none =>
      simp only [getEntry, found] at got
      obtain rfl := Except.ok.inj got
      cases returned
    | some row =>
      simp only [getEntry, found] at got
      obtain ⟨stored, answered, rfl⟩ := (Store.map_ok_iff _ _ _).mp got
      obtain rfl := Except.ok.inj returned
      exact documentOf_answer meets.sound found answered
  | none =>
    simp only [ensureUsageEntry, asked, bind_assoc]
    refine Store.abides_fetch _ _ _ _ _ ?_ (fun _ _ error _ => fails _ error)
    intro plane meets entries listed
    refine Store.abides_ofExcept _ _ _ _ _ ?_ (fun error _ => fails _ error)
    intro usable chosen
    cases usable with
    | none =>
      refine abides_recordForWorkUnit fails _ _ _ _ _ _ ?_
      intro met entry recorded stored
      exact goes _ _ ⟨entry, recorded, .inl rfl⟩
    | some answer =>
      refine goes _ answer ?_
      obtain ⟨entry, inRows, answered⟩ := usableEntry_listed listed chosen
      exact documentOf_answer meets.sound inRows answered

/-- A call that asks for a receipt goes on with one that is stored. -/
theorem abides_createForWorkUnit (met : List LedgerPlane) (draws : Draws) (request : ReceiptRequest)
    (rest : ReceiptAnswer → Store.Client LedgerPlane Raised α)
    (goes : ∀ met answer,
      (∃ plane ∈ met, ∃ entry ∈ plane.auditReceipts.entries, Shows entry.2 answer) →
      Store.Abides (regime platform passed) post met (rest answer)) :
    Store.Abides (regime platform passed) post met
      (createForWorkUnit platform draws request >>= rest) := by
  simp only [createForWorkUnit, bind_assoc]
  refine abides_acceptedContext fails _ _ _ ?_
  intro met context accepted
  refine abides_ensureUsageEntry fails _ _ _ _ ?_
  intro met usage recorded
  refine Store.abides_ofExcept _ _ _ _ _ ?_ (fun error _ => fails _ error)
  intro routebook loaded
  refine Store.abides_ofExcept _ _ _ _ _ ?_ (fun error _ => fails _ error)
  intro usageLedgerEntryId named
  refine Store.abides_fetch _ _ _ _ _ ?_ (fun _ _ error _ => fails _ error)
  intro plane meets existing got
  cases existing with
  | some answer =>
    refine goes _ answer ⟨plane, List.mem_append_right _ List.mem_cons_self, ?_⟩
    exact shown_of_got got
  | none =>
    simp only [insertReceipt, bind_assoc, pure_bind]
    refine Store.abides_fetch _ _ _ _ _ ?_ (fun _ _ error _ => fails _ error)
    intro before beforeMeets previous newest
    obtain rfl := Except.ok.inj newest
    refine Store.abides_ofExcept _ _ _ _ _ ?_ (fun error _ => fails _ error)
    intro receipt built
    have attested : Attested platform passed receipt.auditReceiptId (receiptRow receipt) :=
      ⟨_, context, usage.body, _, routebook, receipt,
        ⟨⟨request.workUnitId, accepted⟩, recorded, before, beforeMeets.passed, rfl⟩, built, rfl, rfl⟩
    refine Store.abides_transaction _ _ _ _ _ _ ?_ (fun _ _ error _ => fails _ error)
    intro store storeMeets value changed stored
    obtain ⟨receipts, outbox, inserted, unused, rfl⟩ :=
      insertReceiptWrites_ok draws receipt store changed value stored
    have evolved : Evolves before store :=
      storeMeets.evolved before (List.mem_append_right _ List.mem_cons_self)
    have leads : ∀ target, receipt.previousReceiptHash = some target →
        ∃ earlier ∈ store.auditReceipts.entries, hashOf earlier = target := by
      intro target names
      rw [previousReceiptHash_built (previous_named beforeMeets.sound _) built] at names
      obtain ⟨entry, listed, same⟩ := previousReceiptHash_some names
      exact ⟨entry, evolved.receipts.subset listed, same⟩
    refine ⟨sound_receipt storeMeets.sound _ receipt receipts inserted unused attested leads,
      evolves_receipt _ _ _ receipts inserted, ?_⟩
    refine goes _ _ ⟨_, List.mem_append_right _ (List.mem_cons_of_mem _ List.mem_cons_self),
      (receipt.auditReceiptId, receiptRow receipt), ?_, rfl, .inl rfl⟩
    simp [((Store.Table.insert_some_iff _ _ _ _).mp inserted).2]

end Calls

/-- What a call that returned has left: a stored entry, or a receipt that it shows. -/
def Answered (platform : ResultsPlatform) (passed : LedgerPlane → Prop) (met : List LedgerPlane) :
    Except Raised LedgerReply → Prop
  | .ok (.usage answer) => ∃ entry, Recorded platform passed entry ∧
    answer = ⟨.obj entry.modelDump, entry.entryHash, none⟩ ∧
    ∃ plane ∈ met, ∃ row, plane.usageLedgerEntries.find? entry.usageLedgerEntryId = some row
  | .ok (.receipt answer) =>
    ∃ plane ∈ met, ∃ entry ∈ plane.auditReceipts.entries, Shows entry.2 answer
  | _ => True

/-- Every call keeps the tables of the ledger sound, whatever other calls write meanwhile. -/
theorem abides_program (op : LedgerOp) : Store.Abides (regime platform passed)
    (Answered platform passed) [] (op.program platform) := by
  have fails (met : List LedgerPlane) (error : Raised) :
      Answered platform passed met (.error error) := trivial
  cases op with
  | other client =>
    refine (Store.abides_on _ _ LedgerPlane.resultsPart client .done ?_ (fun _ => trivial)
      fails).1 []
    intro plane results sound
    exact ⟨sound_results sound results, evolves_results results⟩
  | upsertSnapshot draws snapshot =>
    refine Store.abides_transaction _ _ _ _ _ _ ?_ (fun _ _ error _ => fails _ error)
    intro plane meets value changed stored
    obtain ⟨results, rfl⟩ := upsertSnapshotWrites_ok platform draws snapshot plane changed value stored
    exact ⟨⟨meets.sound.booked, meets.sound.attested, meets.sound.linked, meets.sound.distinct⟩,
      evolves_snapshot results _ _, .done _ _ trivial⟩
  | recordUsage draws workUnitId accountSnapshotId routebook =>
    refine abides_recordForWorkUnit fails _ _ _ _ _ _ ?_
    intro met entry recorded stored
    exact .done _ _ ⟨entry, recorded, rfl, stored⟩
  | createReceipt draws request =>
    refine abides_createForWorkUnit fails _ _ _ _ ?_
    intro met answer shown
    exact .done _ _ shown

/-- The id and the hash of a recorded entry have a name's form. -/
theorem Recorded.named {entry : UsageLedgerEntry} (recorded : Recorded platform passed entry) :
    Named entry.usageLedgerEntryId ∧ Named entry.entryHash := by
  obtain ⟨now, workUnitId, context, accountSnapshotId, routebook, -, built⟩ := recorded
  exact entry_named built

/-! ## Runs -/

/-- No entry was recorded and no receipt given yet. -/
structure Blank (plane : LedgerPlane) : Prop where
  entries : plane.usageLedgerEntries.entries = []
  receipts : plane.auditReceipts.entries = []

/-- The tables that a run starts from are sound without entries and receipts. -/
theorem sound_blank {plane : LedgerPlane} (blank : Blank plane) : Sound platform passed plane where
  booked key row found := by
    rw [Store.Table.find?_of_entries_nil _ blank.entries] at found
    cases found
  attested entry member := by
    rw [blank.receipts] at member
    cases member
  linked := by
    rw [blank.receipts]
    exact Links.linked_nil hashOf linkOf
  distinct := by
    rw [blank.receipts]
    exact List.nodup_nil

end Rules

/-- Calls in progress that keep the tables of a run sound. -/
abbrev Abiding (platform : ResultsPlatform) (passed : LedgerPlane → Prop) (pool : LedgerPool) :
    Prop :=
  Store.Pool.Abiding (regime platform passed) (fun _ => Answered platform passed) pool

/-- Every interleaving keeps the tables of the ledger sound, and answers as specified. -/
theorem reached_abiding (platform : ResultsPlatform) {plane : LedgerPlane} (blank : Blank plane)
    (front moves : List (Store.Move LedgerOp)) (before : front <+: moves) :
    Abiding platform (Passed platform plane moves) (reached platform plane front) := by
  have idle : Abiding platform (Passed platform plane moves) (Store.Pool.idle plane) :=
    Store.Pool.abiding_idle plane (sound_blank blank)
  exact (idle.run (fun op => abides_program op) front
    (fun early within => ⟨early, within.trans before, rfl⟩)).1

/-- What comes later in an interleaving evolved from what was before. -/
theorem reached_evolves (platform : ResultsPlatform) {plane : LedgerPlane} (blank : Blank plane)
    (front moves : List (Store.Move LedgerOp)) :
    Evolves (reached platform plane front).store
      (reached platform plane (front ++ moves)).store := by
  have continued (early : List (Store.Move LedgerOp)) : reached platform plane (front ++ early) =
      Store.run (Store.Pool.move (LedgerOp.program platform)) (reached platform plane front) early :=
    Store.run_append _ _ _ _
  have start := reached_abiding platform blank front (front ++ moves) (List.prefix_append _ _)
  have rest := (start.run (fun op => abides_program op) moves (fun early within =>
    ⟨front ++ early, (List.prefix_append_right_inj front).mpr within,
      congrArg Store.Pool.store (continued early).symm⟩)).2
  rw [continued]
  exact rest

end Audit

end TokenBank
