import TokenBank.Guarantees.Receipts

/-!
# Entries of the ledger over a run

Whatever calls are in progress on the tables, and in whatever order they take their turns: an
entry that was recorded stays, and what it is about stays the same; its other columns are those
of its document, in which figures agree with each other.
-/

namespace TokenBank

namespace Audit

open Ledger Validation

/-- The columns of a row that recording rewrites are those of an entry. -/
def Mirrors (row : UsageLedgerRow) (entry : UsageLedgerEntry) : Prop := row = rewriteUsage entry row

/-- What is recorded under a key was built of stored documents, and its figures agree. -/
theorem Booked.coherent {platform : ResultsPlatform} {passed : LedgerPlane → Prop} {key : String}
    {row : UsageLedgerRow} (booked : Booked platform passed key row) :
    ∃ entry, Recorded platform passed entry ∧ entry.usageLedgerEntryId = key ∧
      Mirrors row entry ∧ Coherent entry := by
  obtain ⟨first, last, -, recorded, -, lastKey, rfl⟩ := booked
  have figures : Coherent last := by
    obtain ⟨now, workUnitId, context, accountSnapshotId, routebook, -, built⟩ := recorded
    exact coherent_built built
  exact ⟨last, recorded, lastKey, rfl, figures⟩

/-- An entry that was recorded or answered at some time is there ever after and about the same
work unit, run, plan and result; its other columns are those of the document of an entry that
was built of stored documents, in which what is billed is what a provider reported, or else
what was estimated. -/
theorem entries_kept (platform : ResultsPlatform) {plane : LedgerPlane} (blank : Blank plane)
    (front moves : List (Store.Move LedgerOp)) :
    let earlier := reached platform plane front
    let later := (reached platform plane (front ++ moves)).store.usageLedgerEntries
    (∀ key row, earlier.store.usageLedgerEntries.find? key = some row →
      ∃ last, later.find? key = some last ∧ subject last = subject row) ∧
    (∀ op answer, (op, .usage answer) ∈ earlier.replies → ∃ entry : UsageLedgerEntry,
      answer = ⟨.obj entry.modelDump, entry.entryHash, none⟩ ∧
      (later.find? entry.usageLedgerEntryId).isSome) ∧
    ∀ key row, later.find? key = some row → ∃ entry,
      Recorded platform (Passed platform plane (front ++ moves)) entry ∧
      entry.usageLedgerEntryId = key ∧ Mirrors row entry ∧ Coherent entry := by
  intro earlier later
  have evolves := reached_evolves platform blank front moves
  have sound := (reached_abiding platform blank _ (front ++ moves) List.prefix_rfl).sound
  refine ⟨evolves.entries, ?_, fun key row found => (sound.booked key row found).coherent⟩
  intro op answer replied
  have abiding := reached_abiding platform blank front front List.prefix_rfl
  obtain ⟨met, before, entry, -, shown, plane, inMet, row, found⟩ := abiding.replies _ replied
  obtain ⟨between, there, -⟩ := (before plane inMet).entries _ row found
  obtain ⟨last, stored, -⟩ := evolves.entries _ between there
  exact ⟨entry, shown, by rw [stored]; rfl⟩

/-- The first entry of the sample stays while the second one is recorded. -/
theorem entries_kept_sample : ∃ front moves,
    let passed := Passed samplePlatform samplePlane (front ++ moves)
    let earlier := reached samplePlatform samplePlane front
    let later := (reached samplePlatform samplePlane (front ++ moves)).store.usageLedgerEntries
    earlier.store.usageLedgerEntries.entries.length = 1 ∧ later.entries.length = 2 ∧
    (∀ key row, earlier.store.usageLedgerEntries.find? key = some row →
      ∃ last, later.find? key = some last ∧ subject last = subject row) ∧
    (∀ op answer, (op, .usage answer) ∈ earlier.replies → ∃ entry : UsageLedgerEntry,
      answer = ⟨.obj entry.modelDump, entry.entryHash, none⟩ ∧
      (later.find? entry.usageLedgerEntryId).isSome) ∧
    ∀ key row, later.find? key = some row → ∃ entry, Recorded samplePlatform passed entry ∧
      entry.usageLedgerEntryId = key ∧ Mirrors row entry ∧ Coherent entry := by
  obtain ⟨front, moves, first, both⟩ := both_reached _ _ sample_apart
  exact ⟨front, moves, by rw [first.entries]; rfl, by rw [both.entries]; rfl,
    entries_kept samplePlatform samplePlane_blank front moves⟩

end Audit

end TokenBank
