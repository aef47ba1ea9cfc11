import TokenBank.Guarantees.Delivery

/-!
# The numbers of committed events

Transactions that enqueue events and any number of flushes are interleaved in any order. A
transaction appends its events under the next numbers when it commits, and leaves no number in use
when it is rolled back; a flush changes no number. So at every point the committed events are
numbered from one on without a gap, and those committed later have the greater numbers.
-/

namespace TokenBank

namespace Delivery

open Store

/-- The ids and numbers of the committed events, in the order in which they were committed. -/
def numbersOf (outbox : Table String EventRow) : List (String × Nat) :=
  outbox.entries.map (fun entry => (entry.1, entry.2.sequence))

/-- Events with the same numbers are numbered alike. -/
theorem numbered_congr {before after : Table String EventRow}
    (same : numbersOf after = numbersOf before) (numbered : Numbered before) : Numbered after := by
  have sequences := congrArg (List.map Prod.snd) same
  have lengths := congrArg List.length same
  simp only [numbersOf, List.map_map, List.length_map] at sequences lengths
  rw [Numbered, lengths, ← numbered]
  exact sequences

/-- Events with the same numbers have the same next number. -/
theorem nextSequence_congr {before after : Table String EventRow}
    (same : numbersOf after = numbersOf before) :
    Outbox.nextSequence after = Outbox.nextSequence before := by
  have sequences := congrArg (List.map Prod.snd) same
  simp only [numbersOf, List.map_map] at sequences
  exact congrArg (fun numbers => maximum numbers + 1) sequences

/-- Marking an event leaves the numbers. -/
theorem numbersOf_modify (outbox : Table String EventRow) (key : String)
    (rewrite : EventRow → EventRow) (same : ∀ row, (rewrite row).sequence = row.sequence) :
    numbersOf (outbox.modify key rewrite) = numbersOf outbox := by
  simp only [numbersOf, Table.modify, Table.update, List.map_map]
  apply List.map_congr_left
  intro entry member
  simp only [Function.comp_apply, Prod.mk.injEq, true_and]
  split
  · exact same entry.2
  · rfl

/-- Enqueued events come behind those that were committed before. -/
theorem numbersOf_enqueued {before after : Db} (enqueued : Enqueued before after) :
    numbersOf before.eventOutbox <+: numbersOf after.eventOutbox := by
  obtain ⟨events, -, added⟩ := enqueued
  rw [numbersOf, numbersOf, Outbox.enqueueAll_entries _ _ _ added, List.map_append]
  exact List.prefix_append _ _

/-! ## Turns -/

/-- What a turn of a flush leaves: the numbers as they were, and a flush that has ended or goes on. -/
structure KeepsNumbers (struck : Nat → Option String) (writtenAt : Nat → String) (log : EventLog)
    (client : EventClient) : Prop where
  numbers : numbersOf (client.turn log).2.db.eventOutbox = numbersOf log.db.eventOutbox
  left : (client.turn log).1.finished = true ∨
    ∃ phase, FlushAt struck writtenAt phase (client.turn log).1

/-- A turn of a flush leaves the numbers, wherever other flushes stand. -/
theorem FlushAt.keepsNumbers {struck : Nat → Option String} {writtenAt : Nat → String}
    {phase : FlushPhase} {client : EventClient} (log : EventLog)
    (left : FlushAt struck writtenAt phase client) :
    KeepsNumbers struck writtenAt log client := by
  cases left with
  | ready limit =>
    refine ⟨by rw [flush_turn], ?_⟩
    rw [flush_turn]
    cases Flusher.pendingEvents limit log.db with
    | error error => exact .inl rfl
    | ok rows => exact .inr ⟨_, .appending 0 rows {}⟩
  | appending position rows result =>
    cases rows with
    | nil => exact ⟨rfl, .inl rfl⟩
    | cons row rest =>
      cases fault : struck position with
      | some error =>
        constructor
        · rw [flushing_turn_struck position row rest result log error fault]
          exact numbersOf_modify _ _ _ (fun _ => rfl)
        · rw [flushing_turn_struck position row rest result log error fault]
          exact .inr ⟨_, .appending _ _ _⟩
      | none =>
        cases parsed : Flusher.eventRowToDocument row with
        | ok document =>
          constructor
          · rw [flushing_turn_appended position row rest result log document fault parsed]
          · rw [flushing_turn_appended position row rest result log document fault parsed]
            exact .inr ⟨_, .marking _ _ _ _⟩
        | error error =>
          -- the row's body does not parse: the flush raises
          have turned : (flushing struck writtenAt position (row :: rest) result).turn log =
              (.raise error, log) := by
            rw [flushing, Flusher.flushRows, fault, Flusher.appendEventJsonl]
            simp only [pure_bind, bind_assoc]
            rw [Client.turn_implicitly _ _ log rfl]
            simp only [Block.put, Block.run, parsed, Except.map]
          exact ⟨by rw [turned], .inl (by rw [turned]; rfl)⟩
  | marking position row rest result =>
    constructor
    · rw [marking_turn]
      exact numbersOf_modify _ _ _ (fun _ => rfl)
    · rw [marking_turn]
      exact .inr ⟨_, .appending _ _ _⟩

/-! ## Every interleaving -/

/-- The call has ended, or is a transaction or a flush in progress. -/
def InProgress (db : Db) (call : Call EventOp EventLog Raised (Option FlushResult)) : Prop :=
  call.rest.finished = true ∨ EnqueueAt db call.rest ∨
    ∃ struck writtenAt phase, FlushAt struck writtenAt phase call.rest

/-- A call in progress stays so while the next number grows. -/
theorem InProgress.later {before after : Db}
    {call : Call EventOp EventLog Raised (Option FlushResult)} (progress : InProgress before call)
    (grown : Outbox.nextSequence before.eventOutbox ≤ Outbox.nextSequence after.eventOutbox) :
    InProgress after call :=
  progress.imp_right (Or.imp_left fun left => left.later grown)

/-- The committed events are numbered, and every call is in progress or has ended. -/
structure Gapless (pool : EventPool) : Prop where
  numbered : Numbered pool.store.db.eventOutbox
  calls : ∀ call ∈ pool.calls, InProgress pool.store.db call

/-- A turn of a call in progress appends to the committed events, keeps them numbered, and leaves
the call in progress. -/
theorem InProgress.turn {log : EventLog} {call : Call EventOp EventLog Raised (Option FlushResult)}
    (progress : InProgress log.db call) (unfinished : call.rest.finished = false)
    (numbered : Numbered log.db.eventOutbox) :
    Numbered (call.rest.turn log).2.db.eventOutbox ∧
      numbersOf log.db.eventOutbox <+: numbersOf (call.rest.turn log).2.db.eventOutbox ∧
      Outbox.nextSequence log.db.eventOutbox ≤
        Outbox.nextSequence (call.rest.turn log).2.db.eventOutbox ∧
      InProgress (call.rest.turn log).2.db (call.next log) := by
  rcases progress with ended | left | ⟨struck, writtenAt, phase, left⟩
  · simp [unfinished] at ended
  · have turned := left.turn numbered
    exact ⟨turned.enqueued.numbered numbered, numbersOf_enqueued turned.enqueued,
      turned.enqueued.next numbered, turned.left.imp_right .inl⟩
  · have turned := left.keepsNumbers log
    exact ⟨numbered_congr turned.numbers numbered, turned.numbers ▸ List.prefix_rfl,
      (nextSequence_congr turned.numbers).ge,
      turned.left.imp_right fun goes => .inr ⟨struck, writtenAt, goes⟩⟩

/-- A move keeps the committed events numbered, and appends to them. -/
theorem Gapless.move {pool : EventPool} (gapless : Gapless pool) (move : Move EventOp) :
    Gapless (pool.move EventOp.program move) ∧ numbersOf pool.store.db.eventOutbox <+:
      numbersOf (pool.move EventOp.program move).store.db.eventOutbox := by
  cases move with
  | start op =>
    refine ⟨⟨gapless.numbered, fun call member => ?_⟩, List.prefix_rfl⟩
    rcases List.mem_append.mp member with old | new
    · exact gapless.calls call old
    · have same_call := List.mem_singleton.mp new
      subst same_call
      cases op with
      | enqueue transaction => exact .inr (.inl (.ready transaction))
      | flush limit struck writtenAt => exact .inr (.inr ⟨struck, writtenAt, _, .ready limit⟩)
  | turn index =>
    cases here : pool.calls[index]? with
    | none => simpa only [Pool.move, here] using ⟨gapless, List.prefix_rfl⟩
    | some call =>
      cases unfinished : call.rest.finished with
      | true =>
        simpa only [Pool.move, here, unfinished, if_true] using ⟨gapless, List.prefix_rfl⟩
      | false =>
        simp only [Pool.move, here, unfinished, Bool.false_eq_true, if_false]
        obtain ⟨numbered, appended, grown, left⟩ :=
          (gapless.calls call (List.mem_of_getElem? here)).turn unfinished gapless.numbered
        refine ⟨⟨numbered, fun other member => ?_⟩, appended⟩
        rcases List.mem_or_eq_of_mem_set member with old | rfl
        · exact (gapless.calls other old).later grown
        · exact left

/-- The pool after an interleaving. -/
abbrev interleaved (initial : EventLog) (moves : List (Move EventOp)) : EventPool :=
  run (Pool.move EventOp.program) (Pool.idle initial) moves

/-- The committed events are numbered at every point, and further moves append to them. -/
theorem gapless_run (initial : EventLog) (empty : initial.db.eventOutbox.entries = [])
    (moves : List (Move EventOp)) : Gapless (interleaved initial moves) := by
  refine run_preserves (Pool.move EventOp.program) Gapless (Pool.idle initial) moves ⟨?_, ?_⟩
    (fun pool move gapless _ => (gapless.move move).1)
  · simp [Numbered, Pool.idle, empty]
  · simp [Pool.idle]

/-- Further moves append to the committed events. -/
theorem gapless_appends (pool : EventPool) (gapless : Gapless pool) (moves : List (Move EventOp)) :
    numbersOf pool.store.db.eventOutbox <+:
      numbersOf (run (Pool.move EventOp.program) pool moves).store.db.eventOutbox := by
  induction moves generalizing pool with
  | nil => exact List.prefix_rfl
  | cons move rest inductionHypothesis =>
    obtain ⟨next, appended⟩ := gapless.move move
    exact appended.trans (inductionHypothesis _ next)

/-- In every interleaving of transactions and flushes that starts from an empty outbox the committed
events are numbered from one on without a gap, in the order in which they were committed: what is
committed at some point keeps its numbers, and comes before all that is committed later. -/
theorem sequences_gapless (initial : EventLog) (empty : initial.db.eventOutbox.entries = [])
    (earlier later : List (Move EventOp)) :
    (numbersOf (interleaved initial (earlier ++ later)).store.db.eventOutbox).map Prod.snd =
        List.range' 1
          (interleaved initial (earlier ++ later)).store.db.eventOutbox.entries.length ∧
      numbersOf (interleaved initial earlier).store.db.eventOutbox <+:
        numbersOf (interleaved initial (earlier ++ later)).store.db.eventOutbox := by
  constructor
  · have numbered := (gapless_run initial empty (earlier ++ later)).numbered
    rw [numbersOf, List.map_map]
    exact numbered
  · rw [interleaved, interleaved, run_append]
    exact gapless_appends _ (gapless_run initial empty earlier) later

/-- The body of an event of the small log is stored as it is. -/
theorem sampleBody_plain (number : Nat) :
    Canonical.plain (.obj [("number", .nat number)]) = true := rfl

/-- Two events in one transaction that is rolled back. -/
def sampleRollback : EventOp :=
  .enqueue
    { statements := [sampleStatement 2, sampleStatement 3]
      explicit := true
      outcome := .error (.valueError "abandoned") }
where
  /-- An event of the small log. -/
  sampleStatement (number : Nat) : EventStatement :=
    .event
      { source := "tokenbank.tests", type := "work_unit.created", subject := "work_units/wu_1"
        body := [("number", .nat number)], traceId := "trace_1"
        eventId := "evt_" ++ Clock.padded 2 number } "2026-01-01T00:00:00Z" (sampleBody_plain number)

/-- Two flushes at a time, and a transaction that is rolled back behind its second event. -/
def rolledBack : List (Move EventOp) :=
  [.start (sampleEvent 1 true), .turn 0, .start (sampleFlush (fun _ => false)), .turn 1,
    .start sampleRollback, .turn 2, .start (sampleFlush (fun _ => true)), .turn 3, .turn 1, .turn 3]

/-- A rollback and two flushes at a time leave no gap: the event committed next is the second. -/
theorem sequences_gapless_rolledBack :
    (numbersOf (interleaved sampleLog (rolledBack ++
        [.start (sampleEvent 4 false), .turn 4, .turn 1, .turn 4])).store.db.eventOutbox).map
          Prod.snd = [1, 2] ∧
      numbersOf (interleaved sampleLog rolledBack).store.db.eventOutbox <+:
        [("evt_01", 1), ("evt_04", 2)] := by
  have gapless := sequences_gapless sampleLog rfl rolledBack
    [.start (sampleEvent 4 false), .turn 4, .turn 1, .turn 4]
  have numbers : numbersOf (interleaved sampleLog (rolledBack ++
      [.start (sampleEvent 4 false), .turn 4, .turn 1, .turn 4])).store.db.eventOutbox =
        [("evt_01", 1), ("evt_04", 2)] := by decide +kernel
  rw [numbers] at gapless ⊢
  exact ⟨rfl, gapless.2⟩

end Delivery

end TokenBank
