import TokenBank.Guarantees.Delivery

/-!
# Events that never reach the file

A flush selects pending events only, and a marking never makes an event pending again. So an
event whose append raised stays failed, and no later flush appends it. Transactions and
flushes run one after the other bring every event into the file exactly when no append of
them raised.
-/

namespace TokenBank

open Store

namespace Delivery

/-- One operation after the other, each run alone. -/
def eventStep (log : EventLog) (op : EventOp) : EventLog := (op.program.run log).2

/-- No append of an operation is struck. -/
def Unstruck (log : EventLog) : EventOp → Prop
  | .enqueue _ => True
  | .flush limit struck _ =>
    match Flusher.pendingEvents limit log.db with
    | .error _ => True
    | .ok rows => ∀ position < rows.length, struck position = none

instance (log : EventLog) : (op : EventOp) → Decidable (Unstruck log op)
  | .enqueue _ => .isTrue trivial
  | .flush limit struck _ =>
    match selection : Flusher.pendingEvents limit log.db with
    | .error _ => .isTrue (by simp [Unstruck, selection])
    | .ok rows => decidable_of_iff (∀ position < rows.length, struck position = none)
        (by simp [Unstruck, selection])

/-- Every committed event has a line in the file. -/
def AllAppended (log : EventLog) : Prop :=
  ∀ row ∈ log.db.eventOutbox.entries, ∃ line ∈ logLines log.jsonl,
    EventDocument.ofLine line = some (EventDocument.ofRow row)
  deriving Decidable

/-- The flush selects every pending event: its limit is one that SQLite can bind, and is
negative or at least the number of pending events. -/
def Exhaustive (limit : Int) (db : Db) : Prop :=
  Db.bindable limit = true ∧
    (limit < 0 ∨ ((db.eventOutbox.entries.filter Flusher.pending).length : Int) ≤ limit)
  deriving Decidable

/-- No event is marked failed. -/
def NoneFailed (db : Db) : Prop := ∀ row ∈ db.eventOutbox.entries, row.2.status ≠ .failed

/-! ## Transactions -/

/-- A transaction run alone enqueues all of its events, or nothing, and leaves the file. -/
theorem EnqueueAt.run {log : EventLog} {client : EventClient} (left : EnqueueAt log.db client)
    (numbered : Numbered log.db.eventOutbox) :
    Enqueued log.db (client.run log).2.db ∧ (client.run log).2.jsonl = log.jsonl := by
  obtain ⟨count, ends⟩ := (Client.turns_finish client).1 log
  induction count generalizing client log with
  | zero =>
    rw [Client.run_finished client log ends]
    exact ⟨Enqueued.of_same rfl, rfl⟩
  | succ count inductionHypothesis =>
    have turn := left.turn numbered
    rw [Client.run_turn]
    rcases turn.left with finished | later
    · rw [Client.run_finished _ _ finished]
      exact ⟨turn.enqueued, turn.file⟩
    · obtain ⟨enqueued, file⟩ :=
        inductionHypothesis later (turn.enqueued.numbered numbered) ends
      exact ⟨turn.enqueued.trans enqueued, file.trans turn.file⟩

/-- Enqueueing marks nothing failed. -/
theorem noneFailed_enqueued {before after : Db} (enqueued : Enqueued before after) :
    NoneFailed after ↔ NoneFailed before := by
  obtain ⟨events, -, added⟩ := enqueued
  rw [NoneFailed, Outbox.enqueueAll_entries _ _ _ added, List.forall_mem_append, NoneFailed]
  refine and_iff_left ?_
  intro row member failed
  have pending := Delivered.pendingEntries_pending _ events row member
  simp [failed] at pending

/-! ## Flushes -/

section Flushes

variable {struck : Nat → Option String} {writtenAt : Nat → String} {log : EventLog}

/-- Marking the first selected row takes it off the pending rows, and changes no other row. -/
theorem marked_rows {phase : FlushPhase} (delivered : Delivered log phase) (row : OutboxRow)
    (rest : List OutboxRow) (chosen : phase.selected = row :: rest)
    (rewrite : EventRow → EventRow) (settled : (rewrite row.2).status ≠ .pending) :
    log.db.eventOutbox.entries.filter Flusher.pending =
        row :: (log.db.eventOutbox.modify row.1 rewrite).entries.filter Flusher.pending ∧
      (NoneFailed { log.db with eventOutbox := log.db.eventOutbox.modify row.1 rewrite } ↔
        NoneFailed log.db ∧ (rewrite row.2).status ≠ .failed) := by
  obtain ⟨tail, first⟩ := delivered.selected
  rw [chosen, List.cons_append] at first
  obtain ⟨before, after, entries, isPending, none, others, -⟩ :=
    delivered.split row (rest ++ tail) first.symm
  have entriesAfter := Table.entries_modify log.db.eventOutbox row.1 row.2 rewrite before after
    entries
  constructor
  · rw [← first, entriesAfter, List.filter_append, List.filter_cons, none, others]
    simp [Flusher.pending, settled]
  · have unfailed : row.2.status ≠ .failed := by
      intro failed
      simp [Flusher.pending, failed] at isPending
    simp only [NoneFailed, entriesAfter, entries, List.forall_mem_append, List.forall_mem_cons]
    constructor
    · rintro ⟨early, here, late⟩
      exact ⟨⟨early, unfailed, late⟩, here⟩
    · rintro ⟨⟨early, -, late⟩, here⟩
      exact ⟨early, here, late⟩

variable (struck writtenAt) in
/-- What a flush run alone from some point on does: it takes the selected rows off the
pending ones, and marks one failed exactly if its append is struck. -/
theorem flushing_run (position : Nat) (rows : List OutboxRow) (result : FlushResult)
    (delivered : Delivered log (.appending rows)) :
    Delivered ((flushing struck writtenAt position rows result).run log).2 .idle ∧
      log.db.eventOutbox.entries.filter Flusher.pending = rows ++
        ((flushing struck writtenAt position rows result).run log).2.db.eventOutbox.entries.filter
          Flusher.pending ∧
      (NoneFailed ((flushing struck writtenAt position rows result).run log).2.db ↔
        NoneFailed log.db ∧ ∀ offset < rows.length, struck (position + offset) = none) := by
  induction rows generalizing position result log with
  | nil =>
    rw [Client.run_finished _ _ rfl]
    exact ⟨delivered.finished, rfl, by simp⟩
  | cons row rest inductionHypothesis =>
    have shifted : (∀ offset < rest.length + 1, struck (position + offset) = none) ↔
        struck position = none ∧ ∀ offset < rest.length, struck (position + 1 + offset) = none := by
      constructor
      · intro every
        refine ⟨every 0 (Nat.succ_pos _), fun offset bound => ?_⟩
        have later := every (offset + 1) (by omega)
        rwa [← Nat.add_assoc, Nat.add_right_comm] at later
      · rintro ⟨first, later⟩ offset bound
        cases offset with
        | zero => exact first
        | succ offset =>
          rw [← Nat.add_assoc, Nat.add_right_comm]
          exact later offset (by omega)
    cases fault : struck position with
    | some error =>
      rw [Client.run_turn, flushing_turn_struck position row rest result log error fault]
      obtain ⟨idle, left, failures⟩ := inductionHypothesis (position + 1)
        { result with failed := result.failed + 1 } (delivered.markedFailed row rest error)
      obtain ⟨taken, failing⟩ := marked_rows delivered row rest rfl (fun stored =>
        { stored with
          status := .failed
          failureCount := stored.failureCount + 1
          lastError := some error }) (by simp)
      refine ⟨idle, taken.trans (congrArg (List.cons row) left), failures.trans ?_⟩
      rw [List.length_cons, shifted, fault]
      have broken := failing.not.mpr (by simp)
      constructor
      · exact fun both => absurd both.1 broken
      · exact fun both => absurd both.2.1 (by simp)
    | none =>
      obtain ⟨document, parsed, appended⟩ := delivered.append row rest
      rw [Client.run_turn, flushing_turn_appended position row rest result log document fault parsed,
        Client.run_turn, marking_turn]
      obtain ⟨idle, left, failures⟩ := inductionHypothesis (position + 1)
        { result with written := result.written + 1 }
        (appended.markedWritten row rest (writtenAt position))
      obtain ⟨taken, failing⟩ := marked_rows delivered row rest rfl (fun stored =>
        { stored with
          status := .written
          writtenAt := some (writtenAt position)
          lastError := none }) (by simp)
      refine ⟨idle, taken.trans (congrArg (List.cons row) left), failures.trans ?_⟩
      rw [List.length_cons, shifted, fault]
      have unfailed := failing.trans (and_iff_left (by simp))
      exact ⟨fun both => ⟨unfailed.mp both.1, rfl, both.2⟩,
        fun both => ⟨unfailed.mpr both.1, both.2.2⟩⟩

end Flushes

/-! ## Runs -/

/-- An operation leaves the file in agreement with the outbox, and marks an event failed
exactly if one of its appends is struck. -/
theorem eventStep_keeps (log : EventLog) (op : EventOp) (delivered : Delivered log .idle) :
    Delivered (eventStep log op) .idle ∧
      (NoneFailed (eventStep log op).db ↔ NoneFailed log.db ∧ Unstruck log op) := by
  cases op with
  | enqueue transaction =>
    obtain ⟨enqueued, file⟩ := (EnqueueAt.ready transaction).run delivered.numbered
    have after : eventStep log (.enqueue transaction) =
        ⟨(eventStep log (.enqueue transaction)).db, log.jsonl⟩ := by
      rw [← file]
      rfl
    refine ⟨after ▸ delivered.enqueued _ enqueued, ?_⟩
    exact (noneFailed_enqueued enqueued).trans (and_iff_left trivial).symm
  | flush limit struck writtenAt =>
    have turned : (EventOp.program (.flush limit struck writtenAt)).run log =
        ((Client.done (Flusher.pendingEvents limit log.db)).bind
          (fun rows => flushing struck writtenAt 0 rows {})).run log := by
      rw [Client.run_turn, flush_turn]
    rw [eventStep, turned]
    cases selection : Flusher.pendingEvents limit log.db with
    | error error => exact ⟨delivered, by simp [Unstruck, selection, Client.bind, Client.run,
        Client.runOn]⟩
    | ok rows =>
      obtain ⟨idle, -, failures⟩ := flushing_run struck writtenAt 0 rows {}
        (delivered.fetched limit rows selection).2
      refine ⟨idle, failures.trans ?_⟩
      simp only [Unstruck, selection, Nat.zero_add]

/-- A run leaves the file in agreement with the outbox, and an event failed exactly if an
append was struck. -/
theorem run_keeps (log : EventLog) (ops : List EventOp) (delivered : Delivered log .idle)
    (unfailed : NoneFailed log.db) :
    Delivered (run eventStep log ops) .idle ∧
      (NoneFailed (run eventStep log ops).db ↔ Along eventStep Unstruck log ops) := by
  have general : Delivered (run eventStep log ops) .idle ∧
      (NoneFailed (run eventStep log ops).db ↔
        NoneFailed log.db ∧ Along eventStep Unstruck log ops) := by
    clear unfailed
    induction ops generalizing log with
    | nil => exact ⟨delivered, (and_iff_left trivial).symm⟩
    | cons op rest inductionHypothesis =>
      obtain ⟨next, failures⟩ := eventStep_keeps log op delivered
      obtain ⟨last, later⟩ := inductionHypothesis (eventStep log op) next
      refine ⟨last, later.trans ?_⟩
      rw [failures, and_assoc]
      rfl
  exact ⟨general.1, general.2.trans (and_iff_right unfailed)⟩

/-- A flush that selects every pending event leaves none pending. -/
theorem exhaustive_flush (log : EventLog) (limit : Int) (struck : Nat → Option String)
    (writtenAt : Nat → String) (delivered : Delivered log .idle)
    (exhaustive : Exhaustive limit log.db) :
    (eventStep log (.flush limit struck writtenAt)).db.eventOutbox.entries.filter
      Flusher.pending = [] := by
  have turned : (EventOp.program (.flush limit struck writtenAt)).run log =
      ((Client.done (Flusher.pendingEvents limit log.db)).bind
        (fun rows => flushing struck writtenAt 0 rows {})).run log := by
    rw [Client.run_turn, flush_turn]
  rw [eventStep, turned]
  cases selection : Flusher.pendingEvents limit log.db with
  | error error => simp [Flusher.pendingEvents, exhaustive.1] at selection
  | ok rows =>
    obtain ⟨chosen, fetched⟩ := delivered.fetched limit rows selection
    obtain ⟨-, left, -⟩ := flushing_run struck writtenAt 0 rows {} fetched
    have every : rows = log.db.eventOutbox.entries.filter Flusher.pending := by
      rw [chosen, Flusher.limited]
      split
      · rfl
      · exact List.take_of_length_le (by have := exhaustive.2; omega)
    rw [every] at left ⊢
    exact List.append_right_eq_self.mp left.symm

/-- Where nothing is pending, every event is in the file exactly if none failed. -/
theorem allAppended_iff (log : EventLog) (delivered : Delivered log .idle)
    (settled : log.db.eventOutbox.entries.filter Flusher.pending = []) :
    AllAppended log ↔ NoneFailed log.db := by
  constructor
  · intro appended row stored failed
    obtain ⟨line, member, read⟩ := appended row stored
    have absent := delivered.inNoLine row stored
      (Delivered.not_recorded row (by simp [Flusher.written, failed]) (by simp [FlushPhase.appended]))
    exact absent line member ⟨_, read, rfl⟩
  · intro unfailed row stored
    have isWritten : Flusher.written row = true := by
      have unpending := List.filter_eq_nil_iff.mp settled row stored
      have never := unfailed row stored
      cases status : row.2.status with
      | pending => simp [Flusher.pending, status] at unpending
      | written => simp [Flusher.written, status]
      | failed => exact absurd status never
    obtain ⟨before, line, after, lines, read, -⟩ := delivered.inOneLine row
      (List.mem_append_left _ (List.mem_filter.mpr ⟨stored, isWritten⟩))
    exact ⟨line, by simp [lines], read⟩

/-- After a last flush that selects every pending event and of which no append is struck, every
committed event is in the file exactly if no append of an earlier flush was struck. -/
theorem all_appended_iff_unstruck (initial : EventLog) (untouched : Untouched initial)
    (ops : List EventOp) (limit : Int) (struck : Nat → Option String) (writtenAt : Nat → String)
    (exhaustive : Exhaustive limit (run eventStep initial ops).db)
    (clean : Unstruck (run eventStep initial ops) (.flush limit struck writtenAt)) :
    AllAppended (eventStep (run eventStep initial ops) (.flush limit struck writtenAt)) ↔
      Along eventStep Unstruck initial ops := by
  have empty := Delivered.empty untouched.outbox untouched.file
  have unfailed : NoneFailed initial.db := by simp [NoneFailed, untouched.outbox]
  obtain ⟨before, failures⟩ := run_keeps initial ops empty unfailed
  obtain ⟨after, last⟩ := eventStep_keeps _ (.flush limit struck writtenAt) before
  rw [allAppended_iff _ after (exhaustive_flush _ limit struck writtenAt before exhaustive), last,
    failures]
  exact and_iff_left clean

/-- Two events, one of them behind a flush without a fault, are both in the file after a last
flush. -/
theorem all_appended_two :
    let ops := [sampleEvent 1 true, sampleFlush (fun _ => false), sampleEvent 2 true]
    (run eventStep sampleLog ops).db.eventOutbox.entries.length = 2 ∧
      AllAppended (eventStep (run eventStep sampleLog ops) (sampleFlush (fun _ => false))) :=
  ⟨by decide +kernel, (all_appended_iff_unstruck sampleLog ⟨rfl, rfl⟩
    [sampleEvent 1 true, sampleFlush (fun _ => false), sampleEvent 2 true] 100 _ _
    (by decide +kernel) (by decide +kernel)).mpr (by decide +kernel)⟩

/-- An event whose append raised once is never appended, though the next flush is clean. -/
theorem failed_event_lost :
    let ops := [sampleEvent 1 true, sampleFlush (fun position => position == 0)]
    Exhaustive 100 (run eventStep sampleLog ops).db ∧
      Unstruck (run eventStep sampleLog ops) (sampleFlush (fun _ => false)) ∧
      ¬ AllAppended (eventStep (run eventStep sampleLog ops) (sampleFlush (fun _ => false))) := by
  decide +kernel

end Delivery

end TokenBank
