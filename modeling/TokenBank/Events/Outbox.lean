import TokenBank.Core.Redaction
import TokenBank.Db.Schema
import TokenBank.Store.Transactions

/-!
# Enqueueing outbox events

An event is inserted as pending, with a redacted body and the next sequence
number, which is one more than the greatest stored one. The insertion is part of
the transaction that makes the change the event reports.

`enqueueAll` is what a transaction's events do to the outbox, taken together:
they are appended in order, or one of their ids is already present.
-/

namespace TokenBank

/-- An event as its producer describes it. The trace id and the event id are
drawn by the producer. -/
structure OutboxEventInput where
  source : String
  type : String
  subject : String
  body : JsonObject
  runId : Option String := none
  workUnitId : Option String := none
  attemptId : Option String := none
  assignmentId : Option String := none
  traceId : String
  spanId : Option String := none
  eventId : String

namespace Outbox

/-- One more than the greatest stored sequence number. -/
def nextSequence (outbox : Store.Table String EventRow) : Nat :=
  Store.maximum (outbox.entries.map (fun entry => entry.2.sequence)) + 1

/-- The row stored for an event. -/
def pendingRow (event : OutboxEventInput) (sequence : Nat) (createdAt : String) : EventRow where
  source := event.source
  type := event.type
  subject := event.subject
  runId := event.runId
  workUnitId := event.workUnitId
  attemptId := event.attemptId
  assignmentId := event.assignmentId
  traceId := event.traceId
  spanId := event.spanId
  status := .pending
  sequence := sequence
  body := Redaction.redactSensitiveValue (.obj event.body)
  createdAt := createdAt

/-- A stored row has the sequence number. -/
def sequenceUsed (outbox : Store.Table String EventRow) (sequence : Nat) : Bool :=
  outbox.entries.any (fun entry => decide (entry.2.sequence = sequence))

/-- Insert a pending row under an unused sequence number and an unused event id. -/
def insertPending (event : OutboxEventInput) (sequence : Nat) (createdAt : String) (db : Db) :
    Except Raised Db :=
  if sequenceUsed db.eventOutbox sequence then
    .error (Db.uniqueViolation "event_outbox.sequence")
  else
    (Db.inserting "event_outbox.event_id" true db.eventOutbox event.eventId
      (pendingRow event sequence createdAt)).map (fun outbox => { db with eventOutbox := outbox })

/-- Enqueue an event under the next sequence number. Nothing else in the same
transaction comes between the query and the insertion. -/
def enqueueEvent (event : OutboxEventInput) (createdAt : String) :
    Store.Block Db Raised String := do
  let sequence ← .fetch (fun db => .ok (nextSequence db.eventOutbox))
  .put (insertPending event sequence createdAt)
  return event.eventId

/-- A business change and the event that reports it, in one transaction. -/
def writeBusinessChangeWithEvent {α : Type} (businessWriter : Store.Block Db Raised α)
    (event : OutboxEventInput) (createdAt : String) : Store.Client Db Raised (α × String) :=
  .transaction Db.nestedTransaction do
    let result ← businessWriter
    let eventId ← enqueueEvent event createdAt
    return (result, eventId)

/-- The next sequence number exceeds every stored one. -/
theorem lt_nextSequence (outbox : Store.Table String EventRow) :
    ∀ entry ∈ outbox.entries, entry.2.sequence < nextSequence outbox := by
  intro entry member
  have bound := Store.le_maximum (outbox.entries.map (fun entry => entry.2.sequence))
    entry.2.sequence (List.mem_map.mpr ⟨entry, member, rfl⟩)
  unfold nextSequence
  omega

/-- The next sequence number is not in use. -/
theorem nextSequence_unused (outbox : Store.Table String EventRow) :
    sequenceUsed outbox (nextSequence outbox) = false := by
  simp only [sequenceUsed, List.any_eq_false, decide_eq_true_eq]
  intro entry member same
  have bound := lt_nextSequence outbox entry member
  omega

/-- Under the next sequence number only the event id can be refused. -/
theorem insertPending_next (event : OutboxEventInput) (createdAt : String) (db : Db) :
    insertPending event (nextSequence db.eventOutbox) createdAt db =
      (Db.inserting "event_outbox.event_id" true db.eventOutbox event.eventId
        (pendingRow event (nextSequence db.eventOutbox) createdAt)).map
          (fun outbox => { db with eventOutbox := outbox }) := by
  simp only [insertPending, nextSequence_unused, Bool.false_eq_true, if_false]

/-- Enqueue events one after the other, unless an event id is already present. -/
def enqueueAll (outbox : Store.Table String EventRow) :
    List (OutboxEventInput × String) → Option (Store.Table String EventRow)
  | [] => some outbox
  | (event, createdAt) :: rest =>
    (outbox.insert event.eventId (pendingRow event (nextSequence outbox) createdAt)).bind
      (fun next => enqueueAll next rest)

/-- Enqueueing succeeds exactly when the event's id is new, and changes nothing
but the outbox. -/
theorem enqueueEvent_ok_iff (event : OutboxEventInput) (createdAt : String) (before after : Db)
    (eventId : String) :
    (enqueueEvent event createdAt).run before = .ok (eventId, after) ↔
      eventId = event.eventId ∧ ∃ outbox,
        enqueueAll before.eventOutbox [(event, createdAt)] = some outbox ∧
          after = { before with eventOutbox := outbox } := by
  simp only [enqueueEvent, Store.Block.run_bind_ok, Store.Block.run_fetch_ok,
    Store.Block.run_put_ok, Store.Block.run_pure_ok, enqueueAll, Except.ok.injEq]
  constructor
  · rintro ⟨sequence, between, ⟨rfl, rfl⟩, -, later, written, rfl, rfl⟩
    rw [insertPending_next, Store.map_ok_iff] at written
    obtain ⟨outbox, inserted, rfl⟩ := written
    rw [Db.inserting_ok_iff] at inserted
    exact ⟨rfl, outbox, by simp [inserted.1], rfl⟩
  · rintro ⟨rfl, outbox, appended, rfl⟩
    have inserted : before.eventOutbox.insert event.eventId
        (pendingRow event (nextSequence before.eventOutbox) createdAt) = some outbox := by
      simpa using appended
    have written : insertPending event (nextSequence before.eventOutbox) createdAt before =
        .ok { before with eventOutbox := outbox } := by
      rw [insertPending_next, Store.map_ok_iff]
      exact ⟨outbox, (Db.inserting_ok_iff _ _ _ _ _ _).mpr ⟨inserted, rfl⟩, rfl⟩
    exact ⟨_, before, ⟨rfl, rfl⟩, (), _, written, rfl, rfl⟩

/-- Events enqueued in two batches are enqueued together. -/
theorem enqueueAll_append (outbox : Store.Table String EventRow)
    (first second : List (OutboxEventInput × String)) :
    enqueueAll outbox (first ++ second) =
      (enqueueAll outbox first).bind (fun next => enqueueAll next second) := by
  induction first generalizing outbox with
  | nil => rfl
  | cons head rest inductionHypothesis =>
    obtain ⟨event, createdAt⟩ := head
    simp only [List.cons_append, enqueueAll]
    cases outbox.insert event.eventId (pendingRow event (nextSequence outbox) createdAt) with
    | none => rfl
    | some next => exact inductionHypothesis next

/-- The entries that events add to an outbox, from a sequence number on. -/
def pendingEntries : Nat → List (OutboxEventInput × String) → List (String × EventRow)
  | _, [] => []
  | sequence, (event, createdAt) :: rest =>
    (event.eventId, pendingRow event sequence createdAt) :: pendingEntries (sequence + 1) rest

/-- One more row under the next sequence number advances it by one. -/
theorem nextSequence_insert (outbox next : Store.Table String EventRow) (event : OutboxEventInput)
    (createdAt : String) (inserted : outbox.insert event.eventId
      (pendingRow event (nextSequence outbox) createdAt) = some next) :
    nextSequence next = nextSequence outbox + 1 := by
  have appended := ((Store.Table.insert_some_iff _ _ _ _).mp inserted).2
  have grown : Store.maximum (next.entries.map (fun entry => entry.2.sequence)) =
      max (Store.maximum (outbox.entries.map (fun entry => entry.2.sequence)))
        (nextSequence outbox) := by
    rw [appended, List.map_append, Store.maximum_append]
    simp [Store.maximum, pendingRow]
  unfold nextSequence at grown ⊢
  omega

/-- Enqueueing appends one row for each event, under consecutive numbers. -/
theorem enqueueAll_entries (outbox last : Store.Table String EventRow)
    (events : List (OutboxEventInput × String)) (enqueued : enqueueAll outbox events = some last) :
    last.entries = outbox.entries ++ pendingEntries (nextSequence outbox) events := by
  induction events generalizing outbox with
  | nil =>
    have same_outbox := Option.some.inj enqueued
    simp [pendingEntries, same_outbox]
  | cons head rest inductionHypothesis =>
    obtain ⟨event, createdAt⟩ := head
    obtain ⟨next, inserted, later⟩ := Option.bind_eq_some_iff.mp enqueued
    have appended := ((Store.Table.insert_some_iff _ _ _ _).mp inserted).2
    rw [inductionHypothesis next later, nextSequence_insert outbox next event createdAt inserted,
      appended, pendingEntries, List.append_assoc, List.singleton_append]

/-- Appended rows are numbered upwards, from the given number on. -/
theorem pendingEntries_ordered (sequence : Nat) (events : List (OutboxEventInput × String)) :
    (pendingEntries sequence events).Pairwise (fun left right =>
        left.2.sequence < right.2.sequence) ∧
      ∀ entry ∈ pendingEntries sequence events, sequence ≤ entry.2.sequence := by
  induction events generalizing sequence with
  | nil => simp [pendingEntries]
  | cons head rest inductionHypothesis =>
    obtain ⟨event, createdAt⟩ := head
    obtain ⟨ordered, bound⟩ := inductionHypothesis (sequence + 1)
    constructor
    · refine List.pairwise_cons.mpr ⟨?_, ordered⟩
      intro entry member
      have above := bound entry member
      simp only [pendingRow]
      omega
    · intro entry member
      rcases List.mem_cons.mp member with first | later
      · simp [first, pendingRow]
      · have above := bound entry later
        omega

/-- Event ids that are pairwise distinct and not in the outbox. -/
def Unused (outbox : Store.Table String EventRow) (eventIds : List String) : Prop :=
  eventIds.Nodup ∧ ∀ eventId ∈ eventIds, outbox.find? eventId = none

instance (outbox : Store.Table String EventRow) (eventIds : List String) :
    Decidable (Unused outbox eventIds) :=
  have (eventId : String) : Decidable (outbox.find? eventId = none) :=
    decidable_of_iff ((outbox.find? eventId).isNone = true) Option.isNone_iff_eq_none
  inferInstanceAs (Decidable (_ ∧ _))

/-- Events can be enqueued together exactly when their ids are unused. -/
theorem enqueueAll_some_iff (outbox : Store.Table String EventRow)
    (events : List (OutboxEventInput × String)) :
    (∃ last, enqueueAll outbox events = some last) ↔
      Unused outbox (events.map (fun event => event.1.eventId)) := by
  induction events generalizing outbox with
  | nil => simp [enqueueAll, Unused]
  | cons head rest inductionHypothesis =>
    obtain ⟨event, createdAt⟩ := head
    simp only [enqueueAll, Unused, List.map_cons, List.nodup_cons, List.forall_mem_cons]
    cases inserted : outbox.insert event.eventId (pendingRow event (nextSequence outbox) createdAt) with
    | none =>
      have present := (Store.Table.insert_none_iff _ _ _).mp inserted
      simp [present]
    | some next =>
      have absent := ((Store.Table.insert_some_iff _ _ _ _).mp inserted).1
      have reads := Store.Table.find?_insert _ _ _ _ inserted
      simp only [Option.bind_some, inductionHypothesis, Unused, absent, true_and]
      constructor
      · rintro ⟨distinct, unused⟩
        have others (eventId : String)
            (member : eventId ∈ rest.map (fun event => event.1.eventId)) :
            eventId ≠ event.eventId ∧ outbox.find? eventId = none := by
          have unread := unused eventId member
          rw [reads] at unread
          split at unread
          · cases unread
          · exact ⟨‹_›, unread⟩
        exact ⟨⟨fun member => (others _ member).1 rfl, distinct⟩,
          fun eventId member => (others eventId member).2⟩
      · rintro ⟨⟨apart, distinct⟩, unused⟩
        refine ⟨distinct, ?_⟩
        intro eventId member
        rw [reads, if_neg]
        · exact unused eventId member
        · rintro rfl
          exact apart member

end Outbox

end TokenBank
