import TokenBank.Core.Clock
import TokenBank.Events.Delivery
import TokenBank.Store.Interleaving

/-!
# Delivery of the outbox

Transactions that enqueue events and flushes, one at a time, are interleaved in any order.
The invariant of the pool says where the flush in progress stands, and that the file agrees
with the outbox there.

A failed event is selected by no later flush. So in a sequence of transactions and flushes
every event reaches the file exactly when no append of them raised.
-/

namespace TokenBank

open Store

/-- A pool of operations on the event log. -/
abbrev EventPool := Pool EventOp EventLog Raised (Option FlushResult)

/-- What is left of an operation on the event log. -/
abbrev EventClient := Client EventLog Raised (Option FlushResult)

namespace Delivery

/-! ## Transactions in progress -/

/-- A client of the tables that reports nothing, as a client of the log. -/
def silently (client : Client Db Raised Unit) : EventClient :=
  (client >>= fun _ => pure none).on EventLog.tables.read EventLog.tables.replace

/-- The insertion of an event under a number, and the statements after it. -/
def numberedBody (input : OutboxEventInput) (createdAt : String) (sequence : Nat)
    (outcome : Except Raised Unit) (rest : List EventStatement) : Block Db Raised Unit := do
  .put (Outbox.insertPending input sequence createdAt)
  EventTransaction.body outcome rest

/-- What is left of a transaction: all of it, or, where its first statement is the query for
a sequence number outside any transaction, the insertion under that number and the rest. -/
inductive EnqueueAt (db : Db) : EventClient → Prop
  | ready (transaction : EventTransaction) : EnqueueAt db (silently transaction.client)
  | numbered (input : OutboxEventInput) (createdAt : String) (sequence : Nat)
      (outcome : Except Raised Unit) (rest : List EventStatement)
      (plain : Canonical.plain (.obj input.body) = true) (positive : 0 < sequence)
      (bound : sequence ≤ Outbox.nextSequence db.eventOutbox) :
      EnqueueAt db (silently (.implicitly (numberedBody input createdAt sequence outcome rest)))

/-- What is left of a transaction stays that while the next number grows. -/
theorem EnqueueAt.later {before after : Db} {client : EventClient} (left : EnqueueAt before client)
    (grown : Outbox.nextSequence before.eventOutbox ≤ Outbox.nextSequence after.eventOutbox) :
    EnqueueAt after client := by
  cases left with
  | ready transaction => exact .ready transaction
  | numbered input createdAt sequence outcome rest plain positive bound =>
    exact .numbered input createdAt sequence outcome rest plain positive (bound.trans grown)

/-- What a turn of a transaction does. -/
structure EnqueueTurn (log : EventLog) (client : EventClient) : Prop where
  file : (client.turn log).2.jsonl = log.jsonl
  enqueued : Enqueued log.db (client.turn log).2.db
  left : (client.turn log).1.finished = true ∨
    EnqueueAt (client.turn log).2.db (client.turn log).1

/-- A block under a transaction that its turn opens enqueues what it enqueues, or nothing. -/
theorem enqueueTurn_of_block (log : EventLog) (client : Client Db Raised Unit)
    (block : Block Db Raised Unit)
    (opened : client = .transaction Db.nestedTransaction block ∨
      client = .implicitly block ∧ block.opens = true)
    (enqueues : ∀ after, block.run log.db = .ok ((), after) → Enqueued log.db after) :
    EnqueueTurn log (silently client) := by
  have turn := EventLog.tables.turn_on (client >>= fun _ => pure (none : Option FlushResult)) log
  change (silently client).turn log = _ at turn
  have read : EventLog.tables.read log = log.db := rfl
  rw [read] at turn
  cases executed : block.run log.db with
  | error error =>
    have turned : (client >>= fun _ => pure (none : Option FlushResult)).turn log.db =
        (Client.raise error, log.db) := by
      rcases opened with rfl | ⟨rfl, opens⟩
      · rw [Client.turn_transaction, executed]
      · rw [Client.turn_implicitly _ _ _ opens, executed]
    rw [turned] at turn
    exact ⟨by rw [turn]; rfl, by rw [turn]; exact Enqueued.of_same rfl, .inl (by rw [turn]; rfl)⟩
  | ok outcome =>
    obtain ⟨value, after⟩ := outcome
    have turned : (client >>= fun _ => pure (none : Option FlushResult)).turn log.db =
        (pure none, after) := by
      rcases opened with rfl | ⟨rfl, opens⟩
      · rw [Client.turn_transaction, executed]
      · rw [Client.turn_implicitly _ _ _ opens, executed]
    rw [turned] at turn
    exact ⟨by rw [turn]; rfl, by rw [turn]; exact enqueues after executed,
      .inl (by rw [turn]; rfl)⟩

/-- A turn of a transaction enqueues all of its events, or nothing. -/
theorem EnqueueAt.turn {log : EventLog} {client : EventClient} (left : EnqueueAt log.db client)
    (numbered : Numbered log.db.eventOutbox) : EnqueueTurn log client := by
  cases left with
  | numbered input createdAt sequence outcome rest plain positive bound =>
    apply enqueueTurn_of_block log _ (numberedBody input createdAt sequence outcome rest)
      (.inr ⟨rfl, rfl⟩)
    intro after executed
    rw [numberedBody, Block.run_bind_ok] at executed
    obtain ⟨value, between, inserted, later⟩ := executed
    rw [Block.run_put_ok] at inserted
    have added := insertPending_stale input createdAt log.db between sequence numbered positive
      bound inserted
    exact Enqueued.trans ⟨[(input, createdAt)], by simpa using plain, added⟩
      (EventTransaction.body_enqueued outcome rest between after _ later)
  | ready transaction =>
    obtain ⟨statements, explicit, outcome⟩ := transaction
    cases explicit with
    | true =>
      exact enqueueTurn_of_block log _ (EventTransaction.body outcome statements) (.inl rfl)
        (fun after executed =>
          EventTransaction.body_enqueued outcome statements log.db after () executed)
    | false =>
      cases statements with
      | nil =>
        cases outcome with
        | ok value => exact ⟨rfl, Enqueued.of_same rfl, .inl rfl⟩
        | error error => exact ⟨rfl, Enqueued.of_same rfl, .inl rfl⟩
      | cons statement rest =>
        cases statement with
        | change write keeps =>
          exact enqueueTurn_of_block log _
            (EventTransaction.body outcome (.change write keeps :: rest)) (.inr ⟨rfl, rfl⟩)
            (fun after executed =>
              EventTransaction.body_enqueued outcome _ log.db after () executed)
        | event input createdAt plain =>
          refine ⟨rfl, Enqueued.of_same rfl, .inr ?_⟩
          exact .numbered input createdAt (Outbox.nextSequence log.db.eventOutbox) outcome rest
            plain (Nat.succ_pos _) (Nat.le_refl _)

/-! ## A flush in progress -/

section Flushes

variable (struck : Nat → Option String) (writtenAt : Nat → String)

/-- Flush rows and report what was done. -/
def flushing (position : Nat) (rows : List OutboxRow) (result : FlushResult) : EventClient :=
  Flusher.flushRows struck writtenAt position rows result >>= fun result => pure (some result)

/-- What is left of a flush at a phase. -/
inductive FlushAt : FlushPhase → EventClient → Prop
  | ready (limit : Int) : FlushAt .idle (EventOp.program (.flush limit struck writtenAt))
  | appending (position : Nat) (rows : List OutboxRow) (result : FlushResult) :
      FlushAt (.appending rows) (flushing struck writtenAt position rows result)
  | marking (position : Nat) (row : OutboxRow) (rest : List OutboxRow) (result : FlushResult) :
      FlushAt (.marking row rest) (do
        Flusher.marking (Flusher.markWritten (writtenAt position) row.1)
        flushing struck writtenAt (position + 1) rest { result with written := result.written + 1 })

/-- A turn of a flush goes to a phase at which the file agrees with the outbox again, and
leaves the numbers of the rows. -/
structure FlushTurn (log : EventLog) (client : EventClient) : Prop where
  numbers : Outbox.nextSequence (client.turn log).2.db.eventOutbox =
    Outbox.nextSequence log.db.eventOutbox
  left : (client.turn log).1.finished = true ∧ Delivered (client.turn log).2 .idle ∨
    (client.turn log).1.finished = false ∧ ∃ phase,
      FlushAt struck writtenAt phase (client.turn log).1 ∧ Delivered (client.turn log).2 phase

variable {struck writtenAt}

/-- Marking rows leaves their numbers. -/
theorem nextSequence_modify (outbox : Table String EventRow) (key : String)
    (rewrite : EventRow → EventRow) (same : ∀ row, (rewrite row).sequence = row.sequence) :
    Outbox.nextSequence (outbox.modify key rewrite) = Outbox.nextSequence outbox := by
  have sequences : (outbox.modify key rewrite).entries.map (fun entry => entry.2.sequence) =
      outbox.entries.map (fun entry => entry.2.sequence) := by
    simp only [Table.modify, Table.update, List.map_map]
    apply List.map_congr_left
    intro entry member
    simp only [Function.comp_apply]
    split
    · exact same entry.2
    · rfl
  rw [Outbox.nextSequence, sequences]
  rfl

/-- The turn of a marking. -/
theorem marking_turn (mark : Db → Db) (rest : Unit → EventClient) (log : EventLog) :
    (Flusher.marking mark >>= rest).turn log = (rest (), { log with db := mark log.db }) := by
  rw [Flusher.marking, Client.turn_implicitly _ rest log rfl]
  rfl

/-- A write that commits by itself is still to be executed. -/
theorem write_unfinished {β : Type} (write : EventLog → Except Raised EventLog)
    (rest : Unit → Client EventLog Raised β) :
    (Client.implicitly (Block.put write) >>= rest).finished = false := by
  change ((Client.implicitly (Block.put write)).bind rest).finished = false
  simp only [Block.put, Client.implicitly, Client.bind, Client.finished]

/-- A flush at a phase goes on, unless it has nothing left to append. -/
theorem FlushAt.settled {log : EventLog} {phase : FlushPhase} {client : EventClient}
    (left : FlushAt struck writtenAt phase client) (delivered : Delivered log phase) :
    client.finished = true ∧ Delivered log .idle ∨
      client.finished = false ∧ ∃ phase, FlushAt struck writtenAt phase client ∧
        Delivered log phase := by
  cases left with
  | ready limit => exact .inr ⟨rfl, _, .ready limit, delivered⟩
  | marking position row rest result =>
    exact .inr ⟨write_unfinished _ _, _, .marking position row rest result, delivered⟩
  | appending position rows result =>
    cases rows with
    | nil => exact .inl ⟨rfl, delivered.finished⟩
    | cons row rest =>
      refine .inr ⟨?_, _, .appending position (row :: rest) result, delivered⟩
      rw [flushing, Flusher.flushRows]
      cases struck position with
      | none =>
        rw [Flusher.appendEventJsonl]
        simp only [bind_assoc]
        exact write_unfinished _ _
      | some error =>
        rw [Flusher.appendEventJsonl]
        simp only [pure_bind, bind_assoc]
        exact write_unfinished _ _

/-- The first turn of a flush selects its rows. -/
theorem flush_turn (limit : Int) (log : EventLog) :
    (EventOp.program (.flush limit struck writtenAt)).turn log =
      ((Client.done (Flusher.pendingEvents limit log.db)).bind
        (fun rows => flushing struck writtenAt 0 rows {}), log) := by
  simp only [EventOp.program, Flusher.flushPendingEvents, bind_assoc]
  rfl

/-- The turn of a flush whose next append is struck marks the row failed. -/
theorem flushing_turn_struck (position : Nat) (row : OutboxRow) (rest : List OutboxRow)
    (result : FlushResult) (log : EventLog) (error : String) (fault : struck position = some error) :
    (flushing struck writtenAt position (row :: rest) result).turn log =
      (flushing struck writtenAt (position + 1) rest { result with failed := result.failed + 1 },
        { log with db := Flusher.markFailed error row.1 log.db }) := by
  rw [flushing, Flusher.flushRows, fault, Flusher.appendEventJsonl]
  simp only [pure_bind, bind_assoc]
  exact marking_turn _ _ log

/-- The turn of a flush whose next append goes through. -/
theorem flushing_turn_appended (position : Nat) (row : OutboxRow) (rest : List OutboxRow)
    (result : FlushResult) (log : EventLog) (document : Json) (unstruck : struck position = none)
    (parsed : Flusher.eventRowToDocument row = .ok document) :
    (flushing struck writtenAt position (row :: rest) result).turn log =
      ((do
        Flusher.marking (Flusher.markWritten (writtenAt position) row.1)
        flushing struck writtenAt (position + 1) rest { result with written := result.written + 1 }),
        { log with jsonl := log.jsonl ++ Canonical.canonicalJsonDumps document ++ "\n" }) := by
  rw [flushing, Flusher.flushRows, unstruck, Flusher.appendEventJsonl]
  simp only [pure_bind, bind_assoc]
  rw [Client.turn_implicitly _ _ log rfl]
  simp only [Block.put, Block.run, parsed, Except.map]
  rfl

/-- A turn of a flush. -/
theorem FlushAt.turn {log : EventLog} {phase : FlushPhase} {client : EventClient}
    (left : FlushAt struck writtenAt phase client) (delivered : Delivered log phase) :
    FlushTurn struck writtenAt log client := by
  cases left with
  | ready limit =>
    refine ⟨by rw [flush_turn], ?_⟩
    rw [flush_turn]
    cases selection : Flusher.pendingEvents limit log.db with
    | error error => exact .inl ⟨rfl, delivered⟩
    | ok rows =>
      exact (FlushAt.appending 0 rows {}).settled (delivered.fetched limit rows selection).2
  | appending position rows result =>
    cases rows with
    | nil => exact ⟨rfl, .inl ⟨rfl, delivered.finished⟩⟩
    | cons row rest =>
      cases fault : struck position with
      | some error =>
        refine ⟨?_, ?_⟩
        · rw [flushing_turn_struck position row rest result log error fault]
          exact nextSequence_modify _ _ _ (fun _ => rfl)
        · rw [flushing_turn_struck position row rest result log error fault]
          exact (FlushAt.appending _ _ _).settled (delivered.markedFailed row rest error)
      | none =>
        obtain ⟨document, parsed, appended⟩ := delivered.append row rest
        refine ⟨?_, ?_⟩
        · rw [flushing_turn_appended position row rest result log document fault parsed]
        · rw [flushing_turn_appended position row rest result log document fault parsed]
          exact (FlushAt.marking _ _ _ _).settled appended
  | marking position row rest result =>
    refine ⟨?_, ?_⟩
    · rw [marking_turn]
      exact nextSequence_modify _ _ _ (fun _ => rfl)
    · rw [marking_turn]
      exact (FlushAt.appending _ _ _).settled (delivered.markedWritten row rest _)

end Flushes

/-! ## Every interleaving -/

/-- A flush is started only when no other flush is in progress. -/
def OneFlush (pool : EventPool) : Move EventOp → Prop
  | .start (.flush _ _ _) => ∀ call ∈ pool.calls, call.op.flushes = true → call.rest.finished = true
  | _ => True

instance (pool : EventPool) : (move : Move EventOp) → Decidable (OneFlush pool move)
  | .start (.flush _ _ _) => inferInstanceAs (Decidable (∀ call ∈ pool.calls, _))
  | .start (.enqueue _) => .isTrue trivial
  | .turn _ => .isTrue trivial

/-- No flush is in progress. -/
def Idle (pool : EventPool) : Prop :=
  ∀ call ∈ pool.calls, call.op.flushes = true → call.rest.finished = true

/-- A flush is in progress at a position, and at no other. -/
structure Flushing (pool : EventPool) (index : Nat) (call : Call EventOp EventLog Raised
    (Option FlushResult)) : Prop where
  here : pool.calls[index]? = some call
  flushes : call.op.flushes = true
  unfinished : call.rest.finished = false
  only : ∀ other otherCall, pool.calls[other]? = some otherCall → otherCall.op.flushes = true →
    otherCall.rest.finished = false → other = index

/-- The file agrees with the outbox, wherever the flush in progress stands. -/
structure Holds (pool : EventPool) : Prop where
  enqueues : ∀ call ∈ pool.calls, call.op.flushes = false →
    call.rest.finished = true ∨ EnqueueAt pool.store.db call.rest
  flush : Idle pool ∧ Delivered pool.store .idle ∨
    ∃ index call phase struck writtenAt, Flushing pool index call ∧
      FlushAt struck writtenAt phase call.rest ∧ Delivered pool.store phase

namespace Holds

variable {pool : EventPool}

/-- The rows are numbered at every point. -/
theorem numbered (holds : Holds pool) : Numbered pool.store.db.eventOutbox := by
  rcases holds.flush with ⟨-, delivered⟩ | ⟨_, _, _, _, _, -, -, delivered⟩
  · exact delivered.numbered
  · exact delivered.numbered

/-- A started transaction does not matter yet. -/
theorem startEnqueue (holds : Holds pool) (transaction : EventTransaction) :
    Holds (pool.move EventOp.program (.start (.enqueue transaction))) := by
  refine ⟨?_, ?_⟩
  · intro call member silent
    rcases List.mem_append.mp member with old | new
    · exact holds.enqueues call old silent
    · have same_call := List.mem_singleton.mp new
      subst same_call
      exact .inr (.ready transaction)
  · rcases holds.flush with ⟨idle, delivered⟩ | ⟨index, call, phase, struck, writtenAt, flushing, left⟩
    · left
      refine ⟨?_, delivered⟩
      intro call member flushes
      rcases List.mem_append.mp member with old | new
      · exact idle call old flushes
      · have same_call := List.mem_singleton.mp new
        subst same_call
        cases flushes
    · right
      refine ⟨index, call, phase, struck, writtenAt, ⟨?_, flushing.flushes, flushing.unfinished, ?_⟩,
        left⟩
      · have bound := (List.getElem?_eq_some_iff.mp flushing.here).1
        simpa [Pool.move, List.getElem?_append_left bound] using flushing.here
      · intro other otherCall there flushes unfinished
        simp only [Pool.move, List.getElem?_append] at there
        split at there
        · exact flushing.only other otherCall there flushes unfinished
        · have same_call := List.mem_singleton.mp (List.mem_of_getElem? there)
          subst same_call
          cases flushes

/-- A started flush is the only one. -/
theorem startFlush (holds : Holds pool) (limit : Int) (struck : Nat → Option String)
    (writtenAt : Nat → String) (idle : Idle pool) :
    Holds (pool.move EventOp.program (.start (.flush limit struck writtenAt))) := by
  have delivered : Delivered pool.store .idle := by
    rcases holds.flush with ⟨-, delivered⟩ | ⟨index, call, _, _, _, flushing, -⟩
    · exact delivered
    · have finished := idle call (List.mem_of_getElem? flushing.here) flushing.flushes
      simp [flushing.unfinished] at finished
  refine ⟨?_, .inr ⟨pool.calls.length, _, .idle, struck, writtenAt,
    ⟨List.getElem?_concat_length, rfl, rfl, ?_⟩, .ready limit, delivered⟩⟩
  · intro call member silent
    rcases List.mem_append.mp member with old | new
    · exact holds.enqueues call old silent
    · have same_call := List.mem_singleton.mp new
      subst same_call
      cases silent
  · intro other otherCall there flushes unfinished
    simp only [Pool.move, List.getElem?_append] at there
    split at there
    · have finished := idle otherCall (List.mem_of_getElem? there) flushes
      simp [unfinished] at finished
    · have bound := (List.getElem?_eq_some_iff.mp there).1
      rw [List.length_singleton] at bound
      omega

/-- What is left of the transactions stays so while the next number grows. -/
theorem enqueues_later (holds : Holds pool) (after : EventLog)
    (grown : Outbox.nextSequence pool.store.db.eventOutbox ≤
      Outbox.nextSequence after.db.eventOutbox) :
    ∀ call ∈ pool.calls, call.op.flushes = false →
      call.rest.finished = true ∨ EnqueueAt after.db call.rest := by
  intro call member silent
  exact (holds.enqueues call member silent).imp_right (fun left => left.later grown)

/-- A turn of a transaction. -/
theorem turnEnqueue (holds : Holds pool) (index : Nat)
    (call : Call EventOp EventLog Raised (Option FlushResult))
    (here : pool.calls[index]? = some call) (silent : call.op.flushes = false)
    (left : EnqueueAt pool.store.db call.rest) (replies : List (EventOp × Option FlushResult)) :
    Holds ⟨(call.rest.turn pool.store).2, pool.calls.set index (call.next pool.store), replies⟩ := by
  have turn := left.turn holds.numbered
  have grown := turn.enqueued.next holds.numbered
  have after : (call.rest.turn pool.store).2 =
      ⟨(call.rest.turn pool.store).2.db, pool.store.jsonl⟩ := by
    rw [← turn.file]
  refine ⟨?_, ?_⟩
  · intro other member silentOther
    rcases List.mem_or_eq_of_mem_set member with old | rfl
    · exact holds.enqueues_later _ grown other old silentOther
    · exact turn.left
  · rcases holds.flush with
      ⟨idle, delivered⟩ | ⟨flushIndex, flush, phase, struck, writtenAt, flushing, at_phase, delivered⟩
    · left
      refine ⟨?_, after ▸ delivered.enqueued _ turn.enqueued⟩
      intro other member flushes
      rcases List.mem_or_eq_of_mem_set member with old | rfl
      · exact idle other old flushes
      · exact absurd (silent.symm.trans flushes) Bool.false_ne_true
    · right
      have apart : index ≠ flushIndex := by
        rintro rfl
        have same_call := Option.some.inj (here.symm.trans flushing.here)
        subst same_call
        exact absurd (silent.symm.trans flushing.flushes) Bool.false_ne_true
      refine ⟨flushIndex, flush, phase, struck, writtenAt,
        ⟨?_, flushing.flushes, flushing.unfinished, ?_⟩, at_phase,
        after ▸ delivered.enqueued _ turn.enqueued⟩
      · rw [List.getElem?_set_ne apart]
        exact flushing.here
      · intro other otherCall there flushes unfinished
        by_cases same : index = other
        · subst same
          have bound := (List.getElem?_eq_some_iff.mp here).1
          rw [List.getElem?_set_self bound] at there
          have same_call := Option.some.inj there
          subst same_call
          exact absurd (silent.symm.trans flushes) Bool.false_ne_true
        · rw [List.getElem?_set_ne same] at there
          exact flushing.only other otherCall there flushes unfinished

/-- A turn of the flush in progress. -/
theorem turnFlush (holds : Holds pool) (index : Nat)
    (call : Call EventOp EventLog Raised (Option FlushResult))
    (here : pool.calls[index]? = some call) (flushes : call.op.flushes = true)
    (unfinished : call.rest.finished = false) (replies : List (EventOp × Option FlushResult)) :
    Holds ⟨(call.rest.turn pool.store).2, pool.calls.set index (call.next pool.store), replies⟩ := by
  rcases holds.flush with
    ⟨idle, -⟩ | ⟨flushIndex, flush, phase, struck, writtenAt, flushing, at_phase, delivered⟩
  · have finished := idle call (List.mem_of_getElem? here) flushes
    simp [unfinished] at finished
  have same_index := flushing.only index call here flushes unfinished
  subst same_index
  have same_call := Option.some.inj (here.symm.trans flushing.here)
  subst same_call
  obtain ⟨numbers, turned⟩ := at_phase.turn delivered
  have bound := (List.getElem?_eq_some_iff.mp here).1
  have others (other : Nat) (otherCall : Call EventOp EventLog Raised (Option FlushResult))
      (there : (pool.calls.set index (call.next pool.store))[other]? = some otherCall)
      (flushesOther : otherCall.op.flushes = true)
      (unfinishedOther : otherCall.rest.finished = false) : other = index := by
    by_contra apart
    rw [List.getElem?_set_ne (Ne.symm apart)] at there
    exact apart (flushing.only other otherCall there flushesOther unfinishedOther)
  have here_after : (pool.calls.set index (call.next pool.store))[index]? =
      some (call.next pool.store) := by
    rw [List.getElem?_set_self bound]
  refine ⟨?_, ?_⟩
  · intro other member silent
    rcases List.mem_or_eq_of_mem_set member with old | rfl
    · exact holds.enqueues_later _ numbers.symm.le other old silent
    · exact absurd (silent.symm.trans flushes) Bool.false_ne_true
  · rcases turned with ⟨ended, delivered⟩ | ⟨unfinished, next, left, delivered⟩
    · refine .inl ⟨?_, delivered⟩
      intro other member flushesOther
      obtain ⟨position, there⟩ := List.getElem?_of_mem member
      by_contra unfinished
      have same_position :=
        others position other there flushesOther (Bool.eq_false_iff.mpr unfinished)
      subst same_position
      have same_call := Option.some.inj (here_after.symm.trans there)
      subst same_call
      exact unfinished ended
    · exact .inr ⟨index, _, next, struck, writtenAt, ⟨here_after, flushes, unfinished, others⟩, left,
        delivered⟩

end Holds

/-- The file agrees with the outbox after every move that starts no second flush. -/
theorem Holds.move {pool : EventPool} (holds : Holds pool) (move : Move EventOp)
    (single : OneFlush pool move) : Holds (pool.move EventOp.program move) := by
  cases move with
  | start op =>
    cases op with
    | enqueue transaction => exact holds.startEnqueue transaction
    | flush limit struck writtenAt => exact holds.startFlush limit struck writtenAt single
  | turn index =>
    cases here : pool.calls[index]? with
    | none => simpa only [Pool.move, here] using holds
    | some call =>
      cases unfinished : call.rest.finished with
      | true => simpa only [Pool.move, here, unfinished, if_true] using holds
      | false =>
        simp only [Pool.move, here, unfinished, Bool.false_eq_true, if_false]
        cases flushes : call.op.flushes with
        | true => exact holds.turnFlush index call here flushes unfinished _
        | false =>
          have left := (holds.enqueues call (List.mem_of_getElem? here) flushes).resolve_left
            (by simp [unfinished])
          exact holds.turnEnqueue index call here flushes left _

/-- Nothing was enqueued yet and the file is empty. -/
structure Untouched (log : EventLog) : Prop where
  outbox : log.db.eventOutbox.entries = []
  file : log.jsonl = ""

/-- The file agrees with the outbox in every interleaving. -/
theorem holds_run (initial : EventLog) (untouched : Untouched initial) (moves : List (Move EventOp))
    (single : Along (Pool.move EventOp.program) OneFlush (Pool.idle initial) moves) :
    Holds (run (Pool.move EventOp.program) (Pool.idle initial) moves) := by
  apply run_invariant (Pool.move EventOp.program) Holds OneFlush (Pool.idle initial) moves _
    (fun pool move holds single => holds.move move single) single
  refine ⟨by simp [Pool.idle], .inl ⟨by simp [Idle, Pool.idle], ?_⟩⟩
  exact Delivered.empty untouched.outbox untouched.file

/-! ## What the lines say -/

/-- A line describes an event. -/
def Mentions (eventId line : String) : Prop :=
  ∃ document, EventDocument.ofLine line = some document ∧ document.eventId = eventId

/-- An event occurs in exactly one line, whose document decodes to its row. -/
def InOneLine (lines : List String) (row : OutboxRow) : Prop :=
  ∃ before line after, lines = before ++ line :: after ∧
    EventDocument.ofLine line = some (EventDocument.ofRow row) ∧
    ∀ other ∈ before ++ after, ¬ Mentions row.1 other

/-- An event occurs in no line. -/
def InNoLine (lines : List String) (row : OutboxRow) : Prop :=
  ∀ line ∈ lines, ¬ Mentions row.1 line

/-- The lines have increasing sequence numbers, written events occur in one line each, and
failed events in none. Pending events occur in none either, once the flush that appends them
has marked them. -/
structure LogAgrees (pool : EventPool) : Prop where
  increasing : ∃ documents : List EventDocument,
    (logLines pool.store.jsonl).map EventDocument.ofLine = documents.map some ∧
      documents.Pairwise (fun earlier later => earlier.sequence < later.sequence)
  written : ∀ row ∈ pool.store.db.eventOutbox.entries, row.2.status = .written →
    InOneLine (logLines pool.store.jsonl) row
  failed : ∀ row ∈ pool.store.db.eventOutbox.entries, row.2.status = .failed →
    InNoLine (logLines pool.store.jsonl) row
  pending : Idle pool → ∀ row ∈ pool.store.db.eventOutbox.entries, row.2.status = .pending →
    InNoLine (logLines pool.store.jsonl) row

end Delivery

namespace Delivered

open Delivery

variable {log : EventLog} {phase : FlushPhase}

/-- The rows whose lines the file has. -/
def recorded (log : EventLog) (phase : FlushPhase) : List OutboxRow :=
  log.db.eventOutbox.entries.filter Flusher.written ++ phase.appended

/-- The row about to be marked is a pending one. -/
theorem appended_pending (delivered : Delivered log phase) :
    ∀ row ∈ phase.appended, row ∈ log.db.eventOutbox.entries ∧ Flusher.pending row = true := by
  intro row member
  cases phase with
  | idle => cases member
  | appending rows => cases member
  | marking first rest =>
    have same_row := List.mem_singleton.mp member
    subst same_row
    exact List.mem_filter.mp (delivered.selected.subset List.mem_cons_self)

/-- The recorded rows are rows of the outbox. -/
theorem recorded_stored (delivered : Delivered log phase) :
    ∀ row ∈ recorded log phase, row ∈ log.db.eventOutbox.entries := by
  intro row member
  rcases List.mem_append.mp member with isWritten | appended
  · exact (List.mem_filter.mp isWritten).1
  · exact (delivered.appended_pending row appended).1

/-- The recorded rows stand in the order of their numbers. -/
theorem recorded_ordered (delivered : Delivered log phase) :
    (recorded log phase).Pairwise (fun earlier later => earlier.2.sequence < later.2.sequence) := by
  refine List.pairwise_append.mpr ⟨delivered.numbered.pairwise.filter _, ?_, ?_⟩
  · cases phase <;> simp [FlushPhase.appended]
  · intro earlier isWritten later appended
    obtain ⟨stored, isPending⟩ := delivered.appended_pending later appended
    obtain ⟨storedEarlier, written⟩ := List.mem_filter.mp isWritten
    exact delivered.inOrder earlier storedEarlier written later stored isPending

/-- The lines of the file are those of the recorded rows. -/
theorem logLines_recorded (delivered : Delivered log phase) :
    logLines log.jsonl = (recorded log phase).map Flusher.eventLine := by
  rw [delivered.file]
  apply logLines_fileText
  intro line member
  obtain ⟨row, stored, rfl⟩ := List.mem_map.mp member
  exact Flusher.eventLine_oneLine row (delivered.plain row (delivered.recorded_stored row stored))

/-- The line of a stored row describes that row. -/
theorem ofLine_stored (delivered : Delivered log phase) (row : OutboxRow)
    (stored : row ∈ log.db.eventOutbox.entries) :
    EventDocument.ofLine (Flusher.eventLine row) = some (EventDocument.ofRow row) :=
  Flusher.ofLine_eventLine row (delivered.plain row stored)

/-- A row whose line mentions an event is the row of that event. -/
theorem mentions_stored (delivered : Delivered log phase) (row other : OutboxRow)
    (stored : row ∈ log.db.eventOutbox.entries) (storedOther : other ∈ log.db.eventOutbox.entries)
    (mentions : Mentions row.1 (Flusher.eventLine other)) : other = row := by
  obtain ⟨document, read, same_id⟩ := mentions
  rw [delivered.ofLine_stored other storedOther] at read
  obtain rfl := Option.some.inj read
  have same_key : other.1 = row.1 := same_id
  have found := (Table.mem_entries_iff log.db.eventOutbox row.1 row.2).mp stored
  have foundOther := (Table.mem_entries_iff log.db.eventOutbox other.1 other.2).mp storedOther
  rw [same_key, found] at foundOther
  exact Prod.ext same_key (Option.some.inj foundOther).symm

/-- A recorded row occurs in exactly one line. -/
theorem inOneLine (delivered : Delivered log phase) (row : OutboxRow)
    (member : row ∈ recorded log phase) : InOneLine (logLines log.jsonl) row := by
  have stored := delivered.recorded_stored
  have ordered := delivered.recorded_ordered
  obtain ⟨before, after, recorded⟩ := List.append_of_mem member
  rw [recorded] at stored ordered
  obtain ⟨-, behind, ahead⟩ := List.pairwise_append.mp ordered
  have here := stored row (by simp)
  refine ⟨before.map Flusher.eventLine, Flusher.eventLine row, after.map Flusher.eventLine, ?_,
    delivered.ofLine_stored row here, ?_⟩
  · rw [delivered.logLines_recorded, recorded, List.map_append, List.map_cons]
  · rw [← List.map_append]
    intro line inOthers mentions
    obtain ⟨other, memberOther, rfl⟩ := List.mem_map.mp inOthers
    have same_row := delivered.mentions_stored row other here
      (stored other (by
        rcases List.mem_append.mp memberOther with early | late
        · simp [early]
        · simp [late])) mentions
    subst same_row
    rcases List.mem_append.mp memberOther with early | late
    · exact Nat.lt_irrefl _ (ahead other early other List.mem_cons_self)
    · exact Nat.lt_irrefl _ ((List.pairwise_cons.mp behind).1 other late)

/-- A row that is not recorded occurs in no line. -/
theorem inNoLine (delivered : Delivered log phase) (row : OutboxRow)
    (stored : row ∈ log.db.eventOutbox.entries) (absent : row ∉ recorded log phase) :
    InNoLine (logLines log.jsonl) row := by
  rw [delivered.logLines_recorded]
  intro line inLines mentions
  obtain ⟨other, member, rfl⟩ := List.mem_map.mp inLines
  have same_row := delivered.mentions_stored row other stored
    (delivered.recorded_stored other member) mentions
  subst same_row
  exact absent member

/-- Lines have increasing sequence numbers. -/
theorem increasing (delivered : Delivered log phase) :
    ∃ documents : List EventDocument,
      (logLines log.jsonl).map EventDocument.ofLine = documents.map some ∧
        documents.Pairwise (fun earlier later => earlier.sequence < later.sequence) := by
  refine ⟨(recorded log phase).map EventDocument.ofRow, ?_, ?_⟩
  · rw [delivered.logLines_recorded, List.map_map, List.map_map]
    apply List.map_congr_left
    intro row member
    rw [Function.comp_apply, Function.comp_apply]
    exact delivered.ofLine_stored row (delivered.recorded_stored row member)
  · rw [List.pairwise_map]
    exact delivered.recorded_ordered.imp (fun before => Int.ofNat_lt.mpr before)

/-- A row that is not written is recorded only while it is about to be marked. -/
theorem not_recorded (row : OutboxRow)
    (unwritten : Flusher.written row = false) (unmarked : row ∉ phase.appended) :
    row ∉ recorded log phase := by
  intro member
  rcases List.mem_append.mp member with isWritten | appended
  · simp [unwritten] at isWritten
  · exact unmarked appended

end Delivered

namespace Delivery

/-- In every interleaving of transactions that enqueue with flushes, one at a time, the file
is ordered, free of duplicates, and agrees with the outbox. -/
theorem log_agrees_interleaved (initial : EventLog) (untouched : Untouched initial)
    (moves : List (Move EventOp))
    (single : Along (Pool.move EventOp.program) OneFlush (Pool.idle initial) moves) :
    LogAgrees (run (Pool.move EventOp.program) (Pool.idle initial) moves) := by
  have holds := holds_run initial untouched moves single
  generalize run (Pool.move EventOp.program) (Pool.idle initial) moves = pool at holds
  have unwritten (row : OutboxRow) (status : OutboxStatus) (other : status ≠ .written)
      (here : row.2.status = status) : Flusher.written row = false := by
    simp [Flusher.written, here, other]
  obtain ⟨phase, delivered, resting⟩ : ∃ phase, Delivered pool.store phase ∧
      (Idle pool → phase.appended = []) := by
    rcases holds.flush with ⟨-, delivered⟩ | ⟨index, call, phase, _, _, flushing, -, delivered⟩
    · exact ⟨.idle, delivered, fun _ => rfl⟩
    · refine ⟨phase, delivered, fun idle => ?_⟩
      have finished := idle call (List.mem_of_getElem? flushing.here) flushing.flushes
      simp [flushing.unfinished] at finished
  refine ⟨delivered.increasing, ?_, ?_, ?_⟩
  · intro row stored isWritten
    apply delivered.inOneLine row
    exact List.mem_append_left _ (List.mem_filter.mpr ⟨stored, by simp [Flusher.written, isWritten]⟩)
  · intro row stored isFailed
    apply delivered.inNoLine row stored
    apply Delivered.not_recorded row (unwritten row .failed (by decide) isFailed)
    intro appended
    have isPending := (delivered.appended_pending row appended).2
    simp [Flusher.pending, isFailed] at isPending
  · intro idle row stored isPending
    apply delivered.inNoLine row stored
    apply Delivered.not_recorded row (unwritten row .pending (by decide) isPending)
    simp [resting idle]

/-- An event of the small log, in a transaction of its own. -/
def sampleEvent (number : Nat) (explicit : Bool) : EventOp :=
  .enqueue
    { statements := [.event
        { source := "tokenbank.tests", type := "work_unit.created", subject := "work_units/wu_1"
          body := [("number", .nat number)], traceId := "trace_1"
          eventId := "evt_" ++ Clock.padded 2 number } "2026-01-01T00:00:00Z" rfl]
      explicit := explicit
      outcome := .ok () }

/-- A flush whose appends at some positions raise. -/
def sampleFlush (struck : Nat → Bool) : EventOp :=
  .flush 100 (fun position => if struck position then some "[Errno 28] No space left on device"
    else none) (fun _ => "2026-01-01T00:00:01Z")

/-- No event and no line. -/
def sampleLog : EventLog where
  db := { workUnits := .empty, routePlans := [], policyDecisions := [], capacityNodes := .empty
          executionAttempts := .empty, assignments := .empty, resultEnvelopes := .empty
          resultQuarantine := .empty, eventOutbox := .empty }
  jsonl := ""

/-- One event is enqueued while another one is flushed, and the next flush fails to append it. -/
theorem log_agrees_interleaved_failing :
    LogAgrees (run (Pool.move EventOp.program) (Pool.idle sampleLog)
      [.start (sampleEvent 1 true), .turn 0, .start (sampleFlush (fun _ => false)), .turn 1,
        .start (sampleEvent 2 false), .turn 2, .turn 1, .turn 2, .turn 1,
        .start (sampleFlush (fun position => position == 0)), .turn 3, .turn 3]) :=
  log_agrees_interleaved sampleLog ⟨rfl, rfl⟩ _ (by decide +kernel)

end Delivery

end TokenBank
