import TokenBank.Guarantees.Receipts

/-!
# Asking for a receipt again

Asked again with nothing in between, a receipt is answered once more and none is added, whether
the first call found an entry of the ledger or recorded one: it is looked for under the id that
it was stored under, and the entry it names is the one that is found or recorded again.
-/

namespace TokenBank

namespace Audit

open Canonical Ledger Validation

/-! ## The order of a listing -/

theorem listedBefore_iff (left right : String × UsageLedgerRow) : listedBefore left right = true ↔
    right.2.createdAt < left.2.createdAt ∨
      (left.2.createdAt = right.2.createdAt ∧ left.1 ≤ right.1) := by
  simp [listedBefore]

/-- Of two entries, one is listed before the other. -/
theorem listedBefore_total (left right : String × UsageLedgerRow) :
    (listedBefore left right || listedBefore right left) = true := by
  rw [Bool.or_eq_true, listedBefore_iff, listedBefore_iff]
  rcases lt_trichotomy left.2.createdAt right.2.createdAt with earlier | same | later
  · exact .inr (.inl earlier)
  · rcases le_total left.1 right.1 with first | second
    · exact .inl (.inr ⟨same, first⟩)
    · exact .inr (.inr ⟨same.symm, second⟩)
  · exact .inl (.inl later)

theorem listedBefore_trans (first second third : String × UsageLedgerRow)
    (before : listedBefore first second = true) (after : listedBefore second third = true) :
    listedBefore first third = true := by
  rw [listedBefore_iff] at before after ⊢
  rcases before with later | ⟨same, less⟩ <;> rcases after with laterStill | ⟨sameStill, lessStill⟩
  · exact .inl (laterStill.trans later)
  · exact .inl (sameStill ▸ later)
  · exact .inl (same ▸ laterStill)
  · exact .inr ⟨same.trans sameStill, less.trans lessStill⟩

/-- Entries listed before each other have one key. -/
theorem key_of_listedBefore (left right : String × UsageLedgerRow)
    (before : listedBefore left right = true) (after : listedBefore right left = true) :
    left.1 = right.1 := by
  rw [listedBefore_iff] at before after
  rcases before with later | ⟨same, less⟩ <;> rcases after with laterStill | ⟨sameStill, lessStill⟩
  · exact absurd laterStill (lt_asymm later)
  · exact absurd later (sameStill ▸ lt_irrefl _)
  · exact absurd laterStill (same ▸ lt_irrefl _)
  · exact le_antisymm less lessStill

/-- The entry listed first is listed before all others. -/
theorem first_listed {plane : LedgerPlane} {workUnitId runId : Option String}
    {head : String × UsageLedgerRow} {rest : List (String × UsageLedgerRow)}
    (listed : listedRows plane workUnitId runId = head :: rest)
    {entry : String × UsageLedgerRow} (inRows : entry ∈ listedRows plane workUnitId runId) :
    listedBefore head entry = true := by
  have sorted : (listedRows plane workUnitId runId).Pairwise (fun left right =>
      listedBefore left right = true) :=
    List.pairwise_mergeSort listedBefore_trans listedBefore_total _
  rw [listed] at sorted inRows
  rcases List.mem_cons.mp inRows with rfl | later
  · have own := listedBefore_total entry entry
    rwa [Bool.or_self] at own
  · exact (List.pairwise_cons.mp sorted).1 entry later

/-- The stored entries that a listing selects are listed. -/
theorem mem_listedRows {plane : LedgerPlane} {workUnitId runId : Option String}
    (entry : String × UsageLedgerRow) : entry ∈ listedRows plane workUnitId runId ↔
      plane.usageLedgerEntries.find? entry.1 = some entry.2 ∧
        (filters workUnitId entry.2.workUnitId && filters runId entry.2.runId) = true := by
  rw [listedRows, (List.mergeSort_perm _ _).mem_iff, Store.Table.select, List.mem_filter,
    ← Store.Table.mem_entries_iff]

/-! ## Finding or recording an entry -/

open Store.Client

section Entries

variable {platform : ResultsPlatform} {request : ReceiptRequest} {before after : LedgerPlane}

/-- An entry is recorded for a request: it is built of what is stored, and besides its row only
events are written. -/
structure RecordedAnew (platform : ResultsPlatform) (request : ReceiptRequest)
    (before after : LedgerPlane) (entry : UsageLedgerEntry) : Prop where
  built : ∃ now context routebook,
    completedContextOf before request.workUnitId = .ok context ∧
    buildUsageEntry platform now context request.accountSnapshotId routebook = .ok entry
  left : ∃ outbox, after = { before with
    results := before.results.withEvents outbox
    usageLedgerEntries := before.usageLedgerEntries.upsert entry.usageLedgerEntryId
      (usageRow entry) (rewriteUsage entry) }

/-- Looking for an entry returns the one that can be used, or records one. -/
def EntryEnsured (platform : ResultsPlatform) (request : ReceiptRequest)
    (before after : LedgerPlane) (answer : UsageAnswer) : Prop :=
  (foundEntry before request = .ok (some answer) ∧ after = before) ∨
    (foundEntry before request = .ok none ∧ ∃ entry,
      answer.body = .obj entry.modelDump ∧ RecordedAnew platform request before after entry)

theorem ensures_ensureUsageEntry (platform : ResultsPlatform) (request : ReceiptRequest)
    (draws : Draws) (plane : LedgerPlane) :
    Ensures (ensureUsageEntry platform draws request) plane (fun result left =>
      ∀ answer, result = .ok answer → EntryEnsured platform request plane left answer) := by
  cases asked : request.usageLedgerEntryId with
  | some usageLedgerEntryId =>
    simp only [ensureUsageEntry, asked]
    refine ensures_fetch _ ?_
    intro answer found
    refine .inl ⟨?_, rfl⟩
    rw [foundEntry, asked]
    exact congrArg (fun entry => entry.map some) found
  | none =>
    simp only [ensureUsageEntry, asked]
    refine (reads_fetch _).ensures_bind ?_ (fun error _ answer raised => by cases raised)
    intro entries listed
    refine (reads_ofExcept _).ensures_bind ?_ (fun error _ answer raised => by cases raised)
    intro usable chosen
    have found : foundEntry plane request = .ok usable := by
      rw [foundEntry, asked]
      exact (Store.bind_ok_iff _ _ _).mpr ⟨entries, listed, chosen⟩
    cases usable with
    | some entry =>
      refine ensures_pure _ ?_
      intro answer returned
      obtain rfl := Except.ok.inj returned
      exact .inl ⟨found, rfl⟩
    | none =>
      refine (reads_completedContext plane _).ensures_bind ?_
        (fun error _ answer raised => by cases raised)
      intro context completed
      refine (reads_ofExcept _).ensures_bind ?_ (fun error _ answer raised => by cases raised)
      intro routebook loaded
      refine (reads_ofExcept _).ensures_bind ?_ (fun error _ answer raised => by cases raised)
      intro entry built
      refine Ensures.bind (ensures_transaction _ _ ?_ (fun error _ answer raised => by cases raised))
      intro value changed stored
      obtain ⟨outbox, rfl⟩ := upsertEntryWrites_ok draws entry plane changed value stored
      refine ensures_pure _ ?_
      intro answer returned
      obtain rfl := Except.ok.inj returned
      exact .inr ⟨found, entry, rfl, ⟨_, context, routebook, completed, built⟩, outbox, rfl⟩

/-- Entries that are built of one context for one account have one id. -/
theorem same_entryId {now other : String} {context : CompletedContext}
    {accountSnapshotId : Option String} {routebook routebookOther : Routebook}
    {entry again : UsageLedgerEntry}
    (built : buildUsageEntry platform now context accountSnapshotId routebook = .ok entry)
    (rebuilt : buildUsageEntry platform other context accountSnapshotId routebookOther =
      .ok again) : again.usageLedgerEntryId = entry.usageLedgerEntryId := by
  obtain ⟨parts, taken, reads⟩ := buildUsageEntry_ok built
  obtain ⟨same, takenAgain, readsAgain⟩ := buildUsageEntry_ok rebuilt
  obtain rfl := Except.ok.inj (taken.symm.trans takenAgain)
  have id := required_member rfl reads.usageLedgerEntryId
  have idAgain := required_member rfl readsAgain.usageLedgerEntryId
  exact Option.some.inj (idAgain.symm.trans id)

/-- The document of an entry names the entry. -/
theorem id_of_document {entry : UsageLedgerEntry} {document : Json}
    (named : DocumentOf entry document) :
    Json.subscripted document "usage_ledger_entry_id" = .ok (.str entry.usageLedgerEntryId) := by
  have here : member entry.modelDump "usage_ledger_entry_id" =
      some (.str entry.usageLedgerEntryId) := rfl
  rcases named with rfl | loaded
  · exact subscripted_of_member here
  · exact subscripted_loaded (plain_entry entry) here loaded

/-- Every entry is stored under the id that its document names. -/
def Keyed (plane : LedgerPlane) : Prop :=
  ∀ key row, plane.usageLedgerEntries.find? key = some row →
    ∃ entry : UsageLedgerEntry, entry.usageLedgerEntryId = key ∧ row.body = .obj entry.modelDump

theorem Sound.keyed {passed : LedgerPlane → Prop} {plane : LedgerPlane}
    (sound : Sound platform passed plane) : Keyed plane := by
  intro key row found
  obtain ⟨first, last, -, -, -, named, rfl⟩ := sound.booked key row found
  exact ⟨last, named, rfl⟩

theorem keyed_of_entries (same : after.usageLedgerEntries = before.usageLedgerEntries)
    (keyed : Keyed before) : Keyed after := by
  intro key row found
  rw [same] at found
  exact keyed key row found

/-- A stored entry is answered under the key it is stored under. -/
theorem Keyed.answer {plane : LedgerPlane} (keyed : Keyed plane) {key : String}
    {row : UsageLedgerRow} (found : plane.usageLedgerEntries.find? key = some row)
    {answer : UsageAnswer} (answered : usageAnswer row = .ok answer) :
    Json.subscripted answer.body "usage_ledger_entry_id" = .ok (.str key) := by
  obtain ⟨body, loaded, returned⟩ := (Store.bind_ok_iff _ _ _).mp answered
  obtain rfl := Except.ok.inj returned
  obtain ⟨entry, rfl, same⟩ := keyed key row found
  exact id_of_document (.inr (same ▸ loaded))

/-- Looking for an entry leaves every entry under its id. -/
theorem EntryEnsured.keyed {answer : UsageAnswer}
    (ensured : EntryEnsured platform request before after answer) (keyed : Keyed before) :
    Keyed after := by
  rcases ensured with ⟨-, rfl⟩ | ⟨-, entry, -, recorded⟩
  · exact keyed
  · obtain ⟨outbox, rfl⟩ := recorded.left
    intro asked row found
    rw [Store.Table.find?_upsert] at found
    split at found
    · rename_i same
      cases stored : before.usageLedgerEntries.find? entry.usageLedgerEntryId with
      | none =>
        rw [stored] at found
        obtain rfl := Option.some.inj found
        exact ⟨entry, same.symm, rfl⟩
      | some old =>
        rw [stored] at found
        obtain rfl := Option.some.inj found
        exact ⟨entry, same.symm, rfl⟩
    · exact keyed asked row found

/-- Computations of all items succeed if each of them does. -/
theorem mapM_succeeds {α β : Type} {make : α → Except Raised β} {items : List α}
    (each : ∀ item ∈ items, ∃ value, make item = .ok value) :
    ∃ values, items.mapM make = .ok values := by
  induction items with
  | nil => exact ⟨[], rfl⟩
  | cons item rest inductionHypothesis =>
    obtain ⟨value, made⟩ := each item List.mem_cons_self
    obtain ⟨values, others⟩ := inductionHypothesis
      (fun other inRest => each other (List.mem_cons_of_mem _ inRest))
    refine ⟨value :: values, (Store.mapM_ok_iff _ _ _).mpr ?_⟩
    exact .cons made ((Store.mapM_ok_iff _ _ _).mp others)

/-- What is answered for the items of a list begins with what is answered for its first one. -/
theorem mapM_cons_ok {α β : Type} {make : α → Except Raised β} {items : List α} {head : β}
    {rest : List β} (all : items.mapM make = .ok (head :: rest)) :
    ∃ first others, items = first :: others ∧ make first = .ok head := by
  cases items with
  | nil => cases Except.ok.inj all
  | cons first others =>
    rw [List.mapM_cons] at all
    obtain ⟨made, here, later⟩ := (Store.bind_ok_iff _ _ _).mp all
    obtain ⟨next, -, returned⟩ := (Store.bind_ok_iff _ _ _).mp later
    obtain ⟨rfl, -⟩ := List.cons.inj (Except.ok.inj returned)
    exact ⟨first, others, rfl, here⟩

/-- An entry found for a request without an id is the first one listed for its work unit. -/
theorem foundEntry_listed {plane : LedgerPlane} (anonymous : request.usageLedgerEntryId = none)
    {answer : UsageAnswer} (found : foundEntry plane request = .ok (some answer)) :
    ∃ head rest others, listedRows plane (some request.workUnitId) none = head :: rest ∧
      usageAnswer head.2 = .ok answer ∧
      usableEntry request.accountSnapshotId (answer :: others) = .ok (some answer) := by
  rw [foundEntry, anonymous] at found
  obtain ⟨entries, listed, chosen⟩ := (Store.bind_ok_iff _ _ _).mp found
  obtain ⟨others, rfl⟩ := usableEntry_some chosen
  obtain ⟨head, rest, same, answered⟩ := mapM_cons_ok listed
  exact ⟨head, rest, others, same, answered, chosen⟩

/-- Where no entry is found although some are listed, the first one cannot be used. -/
theorem foundEntry_unusable {plane : LedgerPlane} (found : foundEntry plane request = .ok none)
    {head : String × UsageLedgerRow} {rest : List (String × UsageLedgerRow)}
    (listed : listedRows plane (some request.workUnitId) none = head :: rest) :
    ∃ answer others, usageAnswer head.2 = .ok answer ∧
      usableEntry request.accountSnapshotId (answer :: others) = .ok none := by
  cases asked : request.usageLedgerEntryId with
  | some usageLedgerEntryId =>
    rw [foundEntry, asked] at found
    obtain ⟨answer, -, impossible⟩ := (Store.map_ok_iff _ _ _).mp found
    cases impossible
  | none =>
    rw [foundEntry, asked] at found
    obtain ⟨entries, answers, chosen⟩ := (Store.bind_ok_iff _ _ _).mp found
    rw [listEntries, listed, List.mapM_cons] at answers
    obtain ⟨answer, answered, later⟩ := (Store.bind_ok_iff _ _ _).mp answers
    obtain ⟨others, -, returned⟩ := (Store.bind_ok_iff _ _ _).mp later
    obtain rfl := Except.ok.inj returned
    exact ⟨answer, others, answered, chosen⟩

/-- The choice of an entry depends on the first one only. -/
theorem usableEntry_congr (accountSnapshotId : Option String) (answer : UsageAnswer)
    (others rest : List UsageAnswer) : usableEntry accountSnapshotId (answer :: others) =
      usableEntry accountSnapshotId (answer :: rest) := rfl

/-- Where entries are stored under the ids that they name, the first one that is listed can be
used for a request that is bound to no account. -/
theorem Keyed.found {plane : LedgerPlane} (keyed : Keyed plane)
    (anonymous : request.usageLedgerEntryId = none) (unbound : request.accountSnapshotId = none)
    (listed : listedRows plane (some request.workUnitId) none ≠ []) :
    ∃ answer, foundEntry plane request = .ok (some answer) := by
  have answered : ∀ entry ∈ listedRows plane (some request.workUnitId) none,
      ∃ members row, usageAnswer entry.2 = .ok ⟨.obj members, entry.2.entryHash, row⟩ := by
    intro entry inRows
    obtain ⟨used, -, body⟩ := keyed entry.1 entry.2 ((mem_listedRows entry).mp inRows).1
    rw [usageAnswer, body, loads_plain (plain_entry used), ordered_obj]
    exact ⟨_, _, rfl⟩
  have all : ∃ answers, listEntries plane (some request.workUnitId) none = .ok answers := by
    refine mapM_succeeds ?_
    intro entry inRows
    obtain ⟨members, row, answer⟩ := answered entry inRows
    exact ⟨_, answer⟩
  obtain ⟨head, rest, first⟩ := List.exists_cons_of_ne_nil listed
  obtain ⟨answers, listing⟩ := all
  have items := (Store.mapM_ok_iff _ _ _).mp listing
  rw [first] at items
  obtain ⟨answer, others, here, -, rfl⟩ := List.forall₂_cons_left_iff.mp items
  obtain ⟨members, row, shown⟩ := answered head (first ▸ List.mem_cons_self)
  obtain rfl := Except.ok.inj (shown.symm.trans here)
  refine ⟨⟨.obj members, head.2.entryHash, row⟩, ?_⟩
  rw [foundEntry, anonymous, unbound]
  exact (Store.bind_ok_iff _ _ _).mpr ⟨_, listing, rfl⟩

/-- An entry that is found is returned, and nothing is written. -/
theorem run_ensureUsageEntry (platform : ResultsPlatform) (draws : Draws) {plane : LedgerPlane}
    {answer : UsageAnswer} (found : foundEntry plane request = .ok (some answer)) :
    (ensureUsageEntry platform draws request).run plane = (.ok answer, plane) := by
  have looked : Ensures (ensureUsageEntry platform draws request) plane
      (fun result left => result = .ok answer ∧ left = plane) := by
    cases asked : request.usageLedgerEntryId with
    | some usageLedgerEntryId =>
      rw [foundEntry, asked] at found
      obtain ⟨same, here, shown⟩ := (Store.map_ok_iff _ _ _).mp found
      obtain rfl := Option.some.inj shown
      simp only [ensureUsageEntry, asked]
      refine ensures_fetch _ ?_
      exact ⟨here, rfl⟩
    | none =>
      rw [foundEntry, asked] at found
      obtain ⟨entries, listed, chosen⟩ := (Store.bind_ok_iff _ _ _).mp found
      simp only [ensureUsageEntry, asked]
      refine (reads_fetch _).goesOn listed ?_
      refine (reads_ofExcept _).goesOn chosen ?_
      exact ensures_pure _ ⟨rfl, rfl⟩
  exact Prod.ext looked.run.1 looked.run.2

/-- An entry that is found once another one was recorded is the one that was recorded: those
listed before could not be used, and keep their order. -/
theorem found_after_recording {entry : UsageLedgerEntry} {answer : UsageAnswer}
    (keyed : Keyed after)
    (unfound : foundEntry before request = .ok none)
    (recorded : after.usageLedgerEntries = before.usageLedgerEntries.upsert
      entry.usageLedgerEntryId (usageRow entry) (rewriteUsage entry))
    (found : foundEntry after request = .ok (some answer)) :
    Json.subscripted answer.body "usage_ledger_entry_id" =
      .ok (.str entry.usageLedgerEntryId) := by
  have anonymous : request.usageLedgerEntryId = none := by
    cases asked : request.usageLedgerEntryId with
    | none => rfl
    | some usageLedgerEntryId =>
      rw [foundEntry, asked] at unfound
      obtain ⟨other, -, impossible⟩ := (Store.map_ok_iff _ _ _).mp unfound
      cases impossible
  obtain ⟨first, rest, others, listed, answered, usable⟩ := foundEntry_listed anonymous found
  have inAfter := (mem_listedRows first).mp (listed ▸ List.mem_cons_self)
  rw [keyed.answer inAfter.1 answered]
  by_contra other
  have apart : first.1 ≠ entry.usageLedgerEntryId := fun same => other (by rw [same])
  have stored : before.usageLedgerEntries.find? first.1 = some first.2 := by
    have there := inAfter.1
    rwa [recorded, Store.Table.find?_upsert, if_neg apart] at there
  have inBefore : first ∈ listedRows before (some request.workUnitId) none :=
    (mem_listedRows first).mpr ⟨stored, inAfter.2⟩
  obtain ⟨head, tail, earlier⟩ := List.exists_cons_of_ne_nil (List.ne_nil_of_mem inBefore)
  obtain ⟨unusable, more, headAnswered, refused⟩ := foundEntry_unusable unfound earlier
  have headStored := (mem_listedRows head).mp (earlier ▸ List.mem_cons_self)
  -- The first entry of the earlier listing is still listed, at its old place.
  obtain ⟨row, kept, sameTime, sameWorkUnit, sameRun⟩ : ∃ row,
      after.usageLedgerEntries.find? head.1 = some row ∧ row.createdAt = head.2.createdAt ∧
      row.workUnitId = head.2.workUnitId ∧ row.runId = head.2.runId := by
    rw [recorded, Store.Table.find?_upsert]
    split
    · rename_i same
      rw [← same, headStored.1]
      exact ⟨_, rfl, rfl, rfl, rfl⟩
    · exact ⟨head.2, headStored.1, rfl, rfl, rfl⟩
  have stillListed : (head.1, row) ∈ listedRows after (some request.workUnitId) none :=
    (mem_listedRows _).mpr ⟨kept, by simpa only [sameWorkUnit, sameRun] using headStored.2⟩
  have placed : listedBefore first head = true := by
    have behind := first_listed listed stillListed
    rw [listedBefore_iff] at behind ⊢
    simpa only [sameTime] using behind
  have sameKey := key_of_listedBefore first head placed (first_listed earlier inBefore)
  have same : first = head := by
    refine Prod.ext sameKey (Option.some.inj ?_)
    rw [← stored, ← headStored.1, sameKey]
  rw [same, headAnswered] at answered
  obtain rfl := Except.ok.inj answered
  rw [usableEntry_congr _ _ others more, refused] at usable
  cases usable

/-- Which entry is found depends on the table of entries only. -/
theorem foundEntry_congr (request : ReceiptRequest)
    (same : after.usageLedgerEntries = before.usageLedgerEntries) :
    foundEntry after request = foundEntry before request := by
  simp only [foundEntry, requiredEntry, getEntry, listEntries, listedRows, same]

/-- Looking for an entry leaves the documents as they are, and the receipts. -/
theorem EntryEnsured.left {answer : UsageAnswer}
    (ensured : EntryEnsured platform request before after answer) :
    SameDocuments before after ∧ after.auditReceipts = before.auditReceipts := by
  rcases ensured with ⟨-, rfl⟩ | ⟨-, entry, -, recorded⟩
  · exact ⟨⟨after.db.eventOutbox, rfl⟩, rfl⟩
  · obtain ⟨outbox, rfl⟩ := recorded.left
    exact ⟨⟨outbox, rfl⟩, rfl⟩

theorem SameDocuments.trans {between : LedgerPlane} (first : SameDocuments before between)
    (second : SameDocuments between after) : SameDocuments before after := by
  obtain ⟨outbox, documents⟩ := first
  obtain ⟨later, unchanged⟩ := second
  exact ⟨later, by rw [unchanged, documents]; rfl⟩

/-- Looked for again, an entry is the same one. -/
theorem same_entry {between last : LedgerPlane} {answer again : UsageAnswer}
    {usageLedgerEntryId : Json} (keyed : Keyed after)
    (ensured : EntryEnsured platform request before between answer)
    (documents : SameDocuments between after)
    (entries : after.usageLedgerEntries = between.usageLedgerEntries)
    (named : Json.subscripted answer.body "usage_ledger_entry_id" = .ok usageLedgerEntryId)
    (repeated : EntryEnsured platform request after last again) :
    Json.subscripted again.body "usage_ledger_entry_id" = .ok usageLedgerEntryId := by
  have sameBefore := ensured.left.1.trans documents
  rcases ensured with ⟨found, rfl⟩ | ⟨unfound, entry, shown, recorded⟩
  · have same := foundEntry_congr request entries
    rcases repeated with ⟨refound, -⟩ | ⟨unfound, -⟩
    · rw [same, found] at refound
      obtain rfl := Option.some.inj (Except.ok.inj refound)
      exact named
    · rw [same, found] at unfound
      cases Except.ok.inj unfound
  · rw [shown, id_of_document (.inl rfl)] at named
    rw [← named]
    obtain ⟨now, context, routebook, completed, built⟩ := recorded.built
    obtain ⟨outbox, left⟩ := recorded.left
    rcases repeated with ⟨refound, -⟩ | ⟨-, other, shownAgain, recordedAgain⟩
    · exact found_after_recording keyed unfound (by rw [entries, left]) refound
    · obtain ⟨later, same, routebookOther, completedAgain, rebuilt⟩ := recordedAgain.built
      rw [(sameBefore.contexts _).1, completed] at completedAgain
      obtain rfl := Except.ok.inj completedAgain
      rw [shownAgain, id_of_document (.inl rfl), same_entryId built rebuilt]

end Entries

/-! ## Answering or storing a receipt -/

section Receipts

variable {platform : ResultsPlatform} {request : ReceiptRequest} {before after : LedgerPlane}

/-- The key a receipt is looked for under. -/
def lookupKey (platform : ResultsPlatform) (context : AcceptedContext) (usageLedgerEntryId : Json) :
    String :=
  receiptId platform (.str context.resultEnvelopeId) usageLedgerEntryId

/-- A receipt is stored: besides its row only events are written. -/
structure StoredAnew (platform : ResultsPlatform) (context : AcceptedContext) (usage : Json)
    (between after : LedgerPlane) (answer : ReceiptAnswer) (receipt : AuditReceipt) : Prop where
  built : ∃ now previous routebook,
    buildReceipt platform now context usage previous routebook = .ok receipt
  answered : answer = ⟨.obj receipt.modelDump, receipt.receiptHash, none⟩
  left : ∃ outbox receipts, between.auditReceipts.insert receipt.auditReceiptId
      (receiptRow receipt) = some receipts ∧
    after = { between with
      results := between.results.withEvents outbox
      auditReceipts := receipts }

/-- Asking for a receipt answers the one under its key, or stores one. -/
def ReceiptEnsured (platform : ResultsPlatform) (request : ReceiptRequest)
    (before after : LedgerPlane) (answer : ReceiptAnswer) : Prop :=
  ∃ context usage between routebook usageLedgerEntryId,
    acceptedContextOf before request.workUnitId = .ok context ∧
    EntryEnsured platform request before between usage ∧ request.routebook = .ok routebook ∧
    Json.subscripted usage.body "usage_ledger_entry_id" = .ok usageLedgerEntryId ∧
    ((getReceipt between (lookupKey platform context usageLedgerEntryId) = .ok (some answer) ∧
        after = between) ∨
      ∃ receipt, StoredAnew platform context usage.body between after answer receipt)

theorem ensures_createForWorkUnit (platform : ResultsPlatform) (request : ReceiptRequest)
    (draws : Draws) (plane : LedgerPlane) :
    Ensures (createForWorkUnit platform draws request) plane (fun result left =>
      ∀ answer, result = .ok answer → ReceiptEnsured platform request plane left answer) := by
  refine (reads_acceptedContext plane _).ensures_bind ?_ (fun error _ answer raised => by cases raised)
  intro context accepted
  refine Ensures.bind ((ensures_ensureUsageEntry _ _ draws plane).mono ?_)
  intro result between ensured
  cases result with
  | error error =>
    intro answer raised
    cases raised
  | ok usage =>
    have entry := ensured usage rfl
    refine (reads_ofExcept _).ensures_bind ?_ (fun error _ answer raised => by cases raised)
    intro routebook loaded
    refine (reads_ofExcept _).ensures_bind ?_ (fun error _ answer raised => by cases raised)
    intro usageLedgerEntryId named
    refine (reads_fetch _).ensures_bind ?_ (fun error _ answer raised => by cases raised)
    intro existing got
    cases existing with
    | some answer =>
      refine ensures_pure _ ?_
      intro other returned
      obtain rfl := Except.ok.inj returned
      exact ⟨context, usage, between, routebook, usageLedgerEntryId, accepted, entry, loaded, named,
        .inl ⟨got, rfl⟩⟩
    | none =>
      refine (reads_fetch _).ensures_bind ?_ (fun error _ answer raised => by cases raised)
      intro previous newest
      refine (reads_ofExcept _).ensures_bind ?_ (fun error _ answer raised => by cases raised)
      intro receipt built
      refine Ensures.bind (ensures_transaction _ _ ?_ (fun error _ answer raised => by cases raised))
      intro value changed stored
      obtain ⟨receipts, outbox, inserted, -, rfl⟩ :=
        insertReceiptWrites_ok draws receipt between changed value stored
      refine ensures_pure _ ?_
      intro answer returned
      obtain rfl := Except.ok.inj returned
      exact ⟨context, usage, between, routebook, usageLedgerEntryId, accepted, entry, loaded, named,
        .inr ⟨receipt, ⟨_, previous, routebook, built⟩, rfl, outbox, receipts, inserted, rfl⟩⟩

/-- Succeeded results are stored under the id that they carry. -/
def Filed (plane : LedgerPlane) : Prop :=
  ∀ key row document, plane.db.resultEnvelopes.find? key = some row → row.status = .succeeded →
    loads row.body = .ok document →
    Json.subscripted document "result_envelope_id" = .ok (.str key)

/-- Whether results are stored under the ids that they carry depends on the results only. -/
theorem Filed.transfer (filed : Filed before)
    (results : after.db.resultEnvelopes = before.db.resultEnvelopes) : Filed after := by
  intro key row document found
  exact filed key row document (results ▸ found)

/-- Every run of the host's calls stores succeeded results under the ids that they carry, and so they
are while the ledger leaves the results alone. -/
theorem filed_of_run (keeps : platform.KeepsWorkUnits) {plane : ResultsPlane}
    (fresh : FreshResults plane) (ops : List ResultOp)
    (supplied : ∀ op ∈ ops, op.Supplied platform) {ledger : LedgerPlane}
    (ran : ledger.db.resultEnvelopes =
      (Store.run (ResultsPlane.step platform) plane ops).db.resultEnvelopes) : Filed ledger := by
  intro key row document found _ loaded
  have stored : (Store.run (ResultsPlane.step platform) plane ops).db.resultEnvelopes.find? key =
      some row := ran ▸ found
  obtain ⟨fields, body, written, carried⟩ := carryIds_of_run keeps fresh ops supplied key row stored
  exact subscripted_loaded written carried (body ▸ loaded)

/-- The result of a receipt's context carries the id that it is stored under. -/
theorem Filed.context {plane : LedgerPlane} (filed : Filed plane) {workUnitId : String}
    {context : AcceptedContext} (accepted : acceptedContextOf plane workUnitId = .ok context) :
    Json.subscripted context.resultBody "result_envelope_id" =
      .ok (.str context.resultEnvelopeId) := by
  obtain ⟨workUnit, -, rest⟩ := (Store.bind_ok_iff _ _ _).mp accepted
  obtain ⟨result, newest, rest⟩ := (Store.bind_ok_iff _ _ _).mp rest
  obtain ⟨report, -, rest⟩ := (Store.bind_ok_iff _ _ _).mp rest
  obtain ⟨verifierBody, -, rest⟩ := (Store.bind_ok_iff _ _ _).mp rest
  obtain ⟨verifier, -, rest⟩ := (Store.bind_ok_iff _ _ _).mp rest
  obtain ⟨recommended, -, rest⟩ := (Store.bind_ok_iff _ _ _).mp rest
  obtain ⟨route, -, rest⟩ := (Store.bind_ok_iff _ _ _).mp rest
  obtain ⟨assignment, -, rest⟩ := (Store.bind_ok_iff _ _ _).mp rest
  obtain ⟨workUnitBody, -, rest⟩ := (Store.bind_ok_iff _ _ _).mp rest
  obtain ⟨routeBody, -, rest⟩ := (Store.bind_ok_iff _ _ _).mp rest
  obtain ⟨assignmentBody, -, rest⟩ := (Store.bind_ok_iff _ _ _).mp rest
  obtain ⟨resultBody, loaded, rest⟩ := (Store.bind_ok_iff _ _ _).mp rest
  obtain rfl := Except.ok.inj rest
  have selected := (Store.newest_spec _ _ _ (requiredRow_ok newest)).1
  obtain ⟨listed, chosen⟩ := List.mem_filter.mp selected
  rw [Bool.and_eq_true, decide_eq_true_eq, decide_eq_true_eq] at chosen
  exact filed result.1 result.2 resultBody ((Store.Table.mem_entries_iff _ _ _).mp listed)
    chosen.2 loaded

/-- The id of a receipt has a name's form if digests are without blanks. -/
theorem receiptId_named (visible : ∀ text, ∀ character ∈ (platform.scheduler.sha256 text).toList,
      BaseModel.whiteSpace character = false) (resultEnvelopeId usageLedgerEntryId : Json) :
    Named (receiptId platform resultEnvelopeId usageLedgerEntryId) :=
  drawn_named platform visible "ar_" (by decide) (by decide) _

/-- Once it was given, a receipt is stored under the key that it is looked for under. -/
theorem stored_receipt (visible : ∀ text, ∀ character ∈ (platform.scheduler.sha256 text).toList,
      BaseModel.whiteSpace character = false) {between : LedgerPlane} {context : AcceptedContext}
    {usage : UsageAnswer} {usageLedgerEntryId : Json} {answer : ReceiptAnswer}
    (carries : Json.subscripted context.resultBody "result_envelope_id" =
      .ok (.str context.resultEnvelopeId))
    (named : Json.subscripted usage.body "usage_ledger_entry_id" = .ok usageLedgerEntryId)
    (ensured : (getReceipt between (lookupKey platform context usageLedgerEntryId) =
        .ok (some answer) ∧ after = between) ∨
      ∃ receipt, StoredAnew platform context usage.body between after answer receipt) :
    SameDocuments between after ∧ after.usageLedgerEntries = between.usageLedgerEntries ∧
      ∃ row again, after.auditReceipts.find? (lookupKey platform context usageLedgerEntryId) =
          some row ∧ receiptAnswer row = .ok again ∧ Shows row answer ∧ Shows row again := by
  rcases ensured with ⟨got, rfl⟩ | ⟨receipt, stored⟩
  · refine ⟨⟨after.db.eventOutbox, rfl⟩, rfl, ?_⟩
    unfold getReceipt at got
    split at got
    · cases Except.ok.inj got
    · rename_i row found
      obtain ⟨same, answered, shown⟩ := (Store.map_ok_iff _ _ _).mp got
      obtain rfl := Option.some.inj shown
      obtain ⟨body, loaded, returned⟩ := (Store.bind_ok_iff _ _ _).mp answered
      obtain rfl := Except.ok.inj returned
      exact ⟨row, _, found, answered, ⟨rfl, .inr loaded⟩, rfl, .inr loaded⟩
  · obtain ⟨now, previous, routebook, built⟩ := stored.built
    obtain ⟨outbox, receipts, inserted, rfl⟩ := stored.left
    obtain ⟨parts, took, reads⟩ := buildReceipt_ok built
    have taken := receiptParts_ok took
    have result := Except.ok.inj (taken.resultEnvelopeId.symm.trans carries)
    have entry := Except.ok.inj (taken.usageLedgerEntryId.symm.trans named)
    have key : receipt.auditReceiptId = lookupKey platform context usageLedgerEntryId := by
      have read := required_member rfl reads.auditReceiptId
      rw [result, entry, nonEmptyStr_of_named (receiptId_named visible _ _)] at read
      exact (Option.some.inj read).symm
    have written : loads (receiptRow receipt).body = .ok (ordered (.obj receipt.modelDump)) :=
      loads_plain (plain_receipt receipt)
    refine ⟨⟨outbox, rfl⟩, rfl, receiptRow receipt,
      ⟨_, receipt.receiptHash, some receipt.createdAt⟩, ?_, ?_, ?_, rfl, .inr written⟩
    · rw [← key, Store.Table.find?_insert _ _ _ _ inserted, if_pos rfl]
    · exact (Store.bind_ok_iff _ _ _).mpr ⟨_, written, rfl⟩
    · rw [stored.answered]
      exact ⟨rfl, .inl rfl⟩

/-- A stored receipt is answered. -/
theorem answers_stored (draws : Draws) {plane : LedgerPlane} {context : AcceptedContext}
    {usage : UsageAnswer} {routebook : Routebook} {usageLedgerEntryId : Json}
    {answer : ReceiptAnswer} (accepted : acceptedContextOf plane request.workUnitId = .ok context)
    (ensured : (ensureUsageEntry platform draws request).run plane = (.ok usage, after))
    (loaded : request.routebook = .ok routebook)
    (named : Json.subscripted usage.body "usage_ledger_entry_id" = .ok usageLedgerEntryId)
    (got : getReceipt after (lookupKey platform context usageLedgerEntryId) = .ok (some answer)) :
    (createForWorkUnit platform draws request).run plane = (.ok answer, after) := by
  have answers : Ensures (createForWorkUnit platform draws request) plane
      (fun result left => result = .ok answer ∧ left = after) := by
    refine (reads_acceptedContext plane _).goesOn accepted ?_
    refine Ensures.bind (((ensures_ensureUsageEntry _ _ draws plane).ran ensured).mono ?_)
    rintro result left ⟨rfl, rfl, -⟩
    refine (reads_ofExcept _).goesOn loaded ?_
    refine (reads_ofExcept _).goesOn named ?_
    refine (reads_fetch _).goesOn got ?_
    exact ensures_pure _ ⟨rfl, rfl⟩
  exact Prod.ext answers.run.1 answers.run.2

/-- Asked for again with nothing in between, a receipt that was given is answered once more,
whatever entry the first call found or recorded, and none is added. -/
theorem receipt_repeated (platform : ResultsPlatform)
    (visible : ∀ text, ∀ character ∈ (platform.scheduler.sha256 text).toList,
      BaseModel.whiteSpace character = false)
    {start : LedgerPlane} (blank : Blank start) (moves : List (Store.Move LedgerOp))
    (filed : Filed (reached platform start moves).store) (draws later : Draws)
    (request : ReceiptRequest) {answer : ReceiptAnswer} {usage : UsageAnswer}
    {left after : LedgerPlane}
    (given : (createForWorkUnit platform draws request).run (reached platform start moves).store =
      (.ok answer, left))
    (ensured : (ensureUsageEntry platform later request).run left = (.ok usage, after)) :
    ∃ again, (createForWorkUnit platform later request).run left = (.ok again, after) ∧
      after.auditReceipts = left.auditReceipts ∧
      ∃ entry ∈ left.auditReceipts.entries, Shows entry.2 answer ∧ Shows entry.2 again := by
  have asked := (ensures_createForWorkUnit platform request draws
    (reached platform start moves).store).run
  rw [given] at asked
  obtain ⟨context, used, between, routebook, usageLedgerEntryId, accepted, first, loaded, named,
    receipt⟩ := asked answer rfl
  have keyed : Keyed between :=
    first.keyed (reached_abiding platform blank _ moves List.prefix_rfl).sound.keyed
  obtain ⟨documents, entries, row, again, stored, answered, shown, shownAgain⟩ :=
    stored_receipt visible (filed.context accepted) named receipt
  have looked := (ensures_ensureUsageEntry platform request later left).run
  rw [ensured] at looked
  have second : EntryEnsured platform request left after usage := looked usage rfl
  have sameContext : acceptedContextOf left request.workUnitId = .ok context := by
    rw [((first.left.1.trans documents).contexts _).2, accepted]
  have sameEntry := same_entry (keyed_of_entries entries keyed) first documents entries named second
  have got : getReceipt after (lookupKey platform context usageLedgerEntryId) =
      .ok (some again) := by
    rw [getReceipt, second.left.2, stored]
    simp only [answered]
    rfl
  exact ⟨again, answers_stored later sameContext ensured loaded sameEntry got, second.left.2,
    (lookupKey platform context usageLedgerEntryId, row),
    (Store.Table.mem_entries_iff _ _ _).mpr stored, shown, shownAgain⟩

end Receipts

/-- Giving a receipt leaves every entry under its id. -/
theorem ReceiptEnsured.keyed {platform : ResultsPlatform} {request : ReceiptRequest}
    {before after : LedgerPlane} {answer : ReceiptAnswer}
    (ensured : ReceiptEnsured platform request before after answer) (keyed : Keyed before) :
    Keyed after := by
  obtain ⟨context, usage, between, routebook, usageLedgerEntryId, -, entry, -, -, receipt⟩ := ensured
  rcases receipt with ⟨-, rfl⟩ | ⟨receipt, stored⟩
  · exact entry.keyed keyed
  · obtain ⟨outbox, receipts, -, rfl⟩ := stored.left
    exact keyed_of_entries rfl (entry.keyed keyed)

/-! ## A sample -/

/-- The results of the sample are stored under the ids that they carry. -/
theorem samplePlane_filed : Filed samplePlane := by
  intro key row document found _ loaded
  have stored := (Store.Table.mem_entries_iff _ _ _).mpr found
  obtain ⟨number, -, placed⟩ := List.mem_map.mp stored
  obtain ⟨rfl, rfl⟩ := Prod.mk.inj placed
  exact subscripted_loaded (by rfl) rfl loaded

/-- The ledger leaves them so. -/
theorem Holds.filed {entries : List (String × UsageLedgerRow)}
    {receipts : List (String × AuditReceiptRow)} {plane : LedgerPlane}
    (holds : Holds entries receipts plane) : Filed plane := by
  obtain ⟨outbox, documents⟩ := holds.documents
  refine samplePlane_filed.transfer ?_
  rw [LedgerPlane.db, documents]
  rfl

/-- The second receipt of the sample is given in a run that has stored the first one, and is
answered once more. -/
theorem receipt_repeated_sample : ∃ moves answer left again,
    let plane := (reached samplePlatform samplePlane moves).store
    plane.auditReceipts.entries.length = 1 ∧ left.auditReceipts.entries.length = 2 ∧
    (createForWorkUnit samplePlatform (Scenario.draws 2) (sampleRequest "2")).run plane =
      (.ok answer, left) ∧
    (createForWorkUnit samplePlatform (Scenario.draws 3) (sampleRequest "2")).run left =
      (.ok again, left) ∧
      ∃ entry ∈ left.auditReceipts.entries, Shows entry.2 answer ∧ Shows entry.2 again := by
  obtain ⟨moves, answer, left, first, given, both⟩ := both_given _ _ sample_apart
  have ran : (createForWorkUnit samplePlatform (Scenario.draws 2) (sampleRequest "2")).run
      (reached samplePlatform samplePlane moves).store = (.ok answer, left) :=
    Prod.ext given.run.1 given.run.2
  have keyed : Keyed left := by
    have asked := (ensures_createForWorkUnit samplePlatform (sampleRequest "2") (Scenario.draws 2)
      (reached samplePlatform samplePlane moves).store).run
    rw [ran] at asked
    exact (asked answer rfl).keyed
      (reached_abiding samplePlatform samplePlane_blank _ moves List.prefix_rfl).sound.keyed
  have listed : filedEntry "2" (Scenario.draws 2) ∈ listedRows left (some "wu_2") none := by
    refine (mem_listedRows _).mpr ⟨(Store.Table.mem_entries_iff _ _ _).mp ?_, rfl⟩
    rw [both.entries]
    exact List.mem_cons_of_mem _ List.mem_cons_self
  have found : ∃ usage, foundEntry left (sampleRequest "2") = .ok (some usage) :=
    keyed.found rfl rfl (List.ne_nil_of_mem listed)
  obtain ⟨usage, found⟩ := found
  obtain ⟨again, answered, -, stored⟩ := receipt_repeated samplePlatform sampleDigest_visible
    samplePlane_blank moves first.filed (Scenario.draws 2) (Scenario.draws 3) (sampleRequest "2") ran
    (run_ensureUsageEntry samplePlatform (Scenario.draws 3) found)
  exact ⟨moves, answer, left, again, by rw [first.receipts]; rfl, by rw [both.receipts]; rfl, ran,
    answered, stored⟩

end Audit

end TokenBank
