import TokenBank.Events.Outbox
import TokenBank.Store.Journal
import Mathlib.Data.List.Sort

/-!
# Reading statuses off the outbox

What the events of the outbox say about the statuses of assignments, attempts and
work units. Each event is read as notes in a journal, by its type and by the
columns that name its subjects; its body is not looked at. This is the abstract
view of the tables that a consumer of the events has.
-/

namespace TokenBank

/-- What has a status. -/
inductive Subject : Type
  | assignment (id : String)
  | attempt (id : String)
  | workUnit (id : String)
deriving DecidableEq

/-- The status the tables store for a subject, as text. -/
def Db.statuses (db : Db) : Subject → Option String
  | .assignment id => (db.assignments.find? id).map (fun row => row.status.text)
  | .attempt id => (db.executionAttempts.find? id).map (fun row => row.status.text)
  | .workUnit id => (db.workUnits.find? id).map (fun row => row.status.text)

namespace Replay

/-- A note about the subject a column names, if it names one. -/
def note (subject : String → Subject) (id : Option String) (status : String) :
    List (Subject × String) :=
  (id.map (fun id => (subject id, status))).toList

/-- What an event with a type and ids says about statuses. -/
def notes (type : String) (workUnitId attemptId assignmentId : Option String) :
    List (Subject × String) :=
  match type with
  | "work_unit.assigned" => note .workUnit workUnitId "assigned"
  | "work_unit.running" => note .workUnit workUnitId "running"
  | "work_unit.succeeded" => note .workUnit workUnitId "succeeded"
  | "attempt.created" => note .attempt attemptId "created"
  | "scheduler.retry_scheduled" => note .attempt attemptId "scheduled"
  | "scheduler.fallback_scheduled" => note .attempt attemptId "scheduled"
  | "assignment.created" =>
    note .assignment assignmentId "created" ++ note .attempt attemptId "assigned"
  | "assignment.accepted" =>
    note .assignment assignmentId "accepted" ++ note .attempt attemptId "running"
  | "assignment.progress" => note .assignment assignmentId "running"
  | "assignment.rejected" =>
    note .assignment assignmentId "rejected" ++ note .attempt attemptId "failed"
  | "assignment.completed" =>
    note .assignment assignmentId "completed" ++ note .attempt attemptId "succeeded"
  | "assignment.expired" => note .assignment assignmentId "expired"
  | "result.quarantined" =>
    note .assignment assignmentId "quarantined" ++ note .attempt attemptId "quarantined"
  | _ => []

/-- What a stored event says. -/
def ofRow (row : EventRow) : List (Subject × String) :=
  notes row.type row.workUnitId row.attemptId row.assignmentId

/-- What an event will say once it is stored. -/
def ofInput (event : OutboxEventInput) : List (Subject × String) :=
  notes event.type event.workUnitId event.attemptId event.assignmentId

/-- What a batch of events will say. -/
def ofBatch (events : List (OutboxEventInput × String)) : List (Subject × String) :=
  events.flatMap (fun event => ofInput event.1)

/-- The rows committed since an outbox, in the order of their sequence numbers. -/
def committedSince (initial outbox : Store.Table String EventRow) : List EventRow :=
  ((outbox.entries.map Prod.snd).filter (fun row =>
    decide (Outbox.nextSequence initial ≤ row.sequence))).mergeSort (fun left right =>
      decide (left.sequence ≤ right.sequence))

/-- The statuses that a journal of rows gives. -/
def folded (rows : List EventRow) : Subject → Option String :=
  Store.replay (fun _ => none) (rows.flatMap ofRow)

/-- Rows say what their events say, whatever their numbers. -/
theorem pendingEntries_notes (sequence : Nat) (events : List (OutboxEventInput × String)) :
    ((Outbox.pendingEntries sequence events).map Prod.snd).flatMap ofRow = ofBatch events := by
  induction events generalizing sequence with
  | nil => rfl
  | cons head rest inductionHypothesis =>
    obtain ⟨event, createdAt⟩ := head
    rw [Outbox.pendingEntries, List.map_cons, List.flatMap_cons, inductionHypothesis, ofBatch,
      ofBatch, List.flatMap_cons]
    rfl

/-- The rows committed since an outbox are those of the events enqueued since, in
the order in which they were enqueued. -/
theorem committedSince_enqueueAll (initial outbox : Store.Table String EventRow)
    (events : List (OutboxEventInput × String))
    (enqueued : Outbox.enqueueAll initial events = some outbox) :
    committedSince initial outbox =
      (Outbox.pendingEntries (Outbox.nextSequence initial) events).map Prod.snd := by
  have appended := Outbox.enqueueAll_entries initial outbox events enqueued
  obtain ⟨ordered, bound⟩ := Outbox.pendingEntries_ordered (Outbox.nextSequence initial) events
  have earlier : (initial.entries.map Prod.snd).filter (fun row =>
      decide (Outbox.nextSequence initial ≤ row.sequence)) = [] := by
    simp only [List.filter_eq_nil_iff, List.mem_map, decide_eq_true_eq]
    rintro row ⟨entry, member, same⟩ above
    have below := Outbox.lt_nextSequence initial entry member
    subst same
    omega
  have later : ((Outbox.pendingEntries (Outbox.nextSequence initial) events).map
      Prod.snd).filter (fun row => decide (Outbox.nextSequence initial ≤ row.sequence)) =
        (Outbox.pendingEntries (Outbox.nextSequence initial) events).map Prod.snd := by
    simp only [List.filter_eq_self, List.mem_map, decide_eq_true_eq]
    rintro row ⟨entry, member, same⟩
    subst same
    exact bound entry member
  rw [committedSince, appended, List.map_append, List.filter_append, earlier, later,
    List.nil_append]
  apply List.mergeSort_of_pairwise
  apply List.pairwise_map.mpr
  exact ordered.imp (fun less => by simpa using Nat.le_of_lt less)

end Replay

end TokenBank
