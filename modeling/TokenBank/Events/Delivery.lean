import TokenBank.Events.Flusher

/-!
# What the file holds next to what the outbox says

The file consists of the lines of the written rows, in the order of their sequence numbers,
and of the row whose append went through but that is not marked yet. `Delivered` ties the
two together at every point of a flush; what it says is preserved by whole transactions of
other connections, by an append, and by either marking.
-/

namespace TokenBank

/-! ## The text of the file -/

/-- The text of a file with some lines. -/
def fileText (lines : List String) : String := String.join (lines.map (fun line => line ++ "\n"))

/-- The characters of a file with some lines. -/
theorem fileText_toList (lines : List String) :
    (fileText lines).toList = lines.flatMap (fun line => line.toList ++ ['\n']) := by
  simp [fileText, String.toList_join, List.flatMap_map, String.toList_append]

/-- One more line goes to the end of the file. -/
theorem fileText_concat (lines : List String) (line : String) :
    fileText (lines ++ [line]) = fileText lines ++ line ++ "\n" := by
  apply String.toList_injective
  simp [fileText_toList, String.toList_append]

/-- The lines of a file are those it was made of, if none of them is broken. -/
theorem logLines_fileText (lines : List String) (whole : ∀ line ∈ lines, '\n' ∉ line.toList) :
    logLines (fileText lines) = lines := by
  have split : (fileText lines).toList.splitOn '\n' = lines.map String.toList ++ [[]] := by
    rw [fileText_toList]
    induction lines with
    | nil => simp
    | cons line rest inductionHypothesis =>
      obtain ⟨here, later⟩ := List.forall_mem_cons.mp whole
      rw [List.flatMap_cons, List.append_assoc, List.singleton_append,
        List.splitOn_append_cons_self, List.splitOn_eq_singleton here, inductionHypothesis later]
      rfl
  rw [logLines, split, List.dropLast_concat, List.map_map]
  simp [Function.comp_def]

namespace Flusher

/-! ## The line of a row -/

/-- The line of a row. -/
def eventLine (row : OutboxRow) : String :=
  Canonical.canonicalJsonDumps (.obj (documentOf row row.2.body))

/-- The document of a row with a plain body is plain. -/
theorem plain_document (row : OutboxRow) (body : Json) (plain : Canonical.plain body = true) :
    Canonical.plain (.obj (documentOf row body)) = true := by
  have optional (value : Option String) : Canonical.plain (.optional value) = true := by
    cases value <;> rfl
  have distinct : ((documentOf row body).map Prod.fst).Nodup := by
    change ["event_id", "source", "type", "subject", "run_id", "work_unit_id", "attempt_id",
      "assignment_id", "trace_id", "span_id", "sequence", "body", "created_at"].Nodup
    decide
  rw [Canonical.plain, Bool.and_eq_true]
  refine ⟨by simpa using distinct, ?_⟩
  simp only [documentOf, Canonical.plainFields, Canonical.plain, optional, plain, Json.nat,
    Bool.and_true]

/-- A row with a plain body has a document, whose text is the row's line. -/
theorem eventRowToDocument_plain (row : OutboxRow) (plain : Canonical.plain row.2.body = true) :
    ∃ document, eventRowToDocument row = .ok document ∧
      Canonical.canonicalJsonDumps document = eventLine row := by
  refine ⟨.obj (documentOf row (Canonical.ordered row.2.body)), ?_, ?_⟩
  · rw [eventRowToDocument, Canonical.jsonLoads_canonicalJsonDumps _ plain]
  · simp only [eventLine, documentOf, Canonical.canonicalJsonDumps, Canonical.dumpsFields,
      Canonical.canonicalJsonDumps_ordered]

/-- The line of a row with a plain body is one line. -/
theorem eventLine_oneLine (row : OutboxRow) (plain : Canonical.plain row.2.body = true) :
    '\n' ∉ (eventLine row).toList :=
  Canonical.canonicalJsonDumps_oneLine _ (plain_document row _ plain)

/-- The line of a row reads as the event of the row. -/
theorem ofLine_eventLine (row : OutboxRow) (plain : Canonical.plain row.2.body = true) :
    EventDocument.ofLine (eventLine row) = some (EventDocument.ofRow row) := by
  have whole := plain_document row row.2.body plain
  have read := Canonical.jsonLoads_canonicalJsonDumps _ whole
  rw [Canonical.plain, Bool.and_eq_true, decide_eq_true_eq] at whole
  rw [EventDocument.ofLine, eventLine, read, Canonical.ordered_obj]
  have member := Canonical.get_ordered (documentOf row row.2.body) whole.1
  have optional (value : Option String) :
      EventDocument.optionalText (Canonical.ordered (.optional value)) = some value := by
    cases value <;> rfl
  simp only [EventDocument.ofDocument, member]
  simp [Json.get, documentOf, Canonical.ordered, EventDocument.text, optional, Json.nat,
    EventDocument.integer, Canonical.canonicalJsonDumps_ordered, EventDocument.ofRow]

end Flusher

/-! ## Numbered rows -/

/-- The rows are numbered from one on, in the order of their insertion. -/
def Numbered (outbox : Store.Table String EventRow) : Prop :=
  outbox.entries.map (fun entry => entry.2.sequence) = List.range' 1 outbox.entries.length

/-- The next number after numbered rows is their count and one. -/
theorem Numbered.next {outbox : Store.Table String EventRow} (numbered : Numbered outbox) :
    Outbox.nextSequence outbox = outbox.entries.length + 1 := by
  rw [Outbox.nextSequence, numbered, Store.maximum_range']

/-- Numbered rows stand in the order of their numbers. -/
theorem Numbered.pairwise {outbox : Store.Table String EventRow} (numbered : Numbered outbox) :
    outbox.entries.Pairwise (fun left right => left.2.sequence < right.2.sequence) := by
  have ordered := List.pairwise_lt_range' (s := 1) (n := outbox.entries.length)
  rw [← numbered, List.pairwise_map] at ordered
  exact ordered

/-- Every number up to the count of numbered rows is in use. -/
theorem Numbered.used {outbox : Store.Table String EventRow} (numbered : Numbered outbox)
    (sequence : Nat) (positive : 0 < sequence) (bound : sequence ≤ outbox.entries.length) :
    Outbox.sequenceUsed outbox sequence = true := by
  have member : sequence ∈ outbox.entries.map (fun entry => entry.2.sequence) := by
    rw [numbered, List.mem_range'_1]
    omega
  obtain ⟨entry, stored, same⟩ := List.mem_map.mp member
  simp only [Outbox.sequenceUsed, List.any_eq_true, decide_eq_true_eq]
  exact ⟨entry, stored, same⟩

/-- Appended rows are numbered from the given number on. -/
theorem pendingEntries_sequences (sequence : Nat) (events : List (OutboxEventInput × String)) :
    (Outbox.pendingEntries sequence events).map (fun entry => entry.2.sequence) =
      List.range' sequence events.length := by
  induction events generalizing sequence with
  | nil => rfl
  | cons event rest inductionHypothesis =>
    rw [Outbox.pendingEntries, List.map_cons, inductionHypothesis, List.length_cons,
      List.range'_succ]
    rfl

/-- Appended rows are as many as the events. -/
theorem pendingEntries_length (sequence : Nat) (events : List (OutboxEventInput × String)) :
    (Outbox.pendingEntries sequence events).length = events.length := by
  have sequences := congrArg List.length (pendingEntries_sequences sequence events)
  simpa using sequences

/-- Enqueued events leave the rows numbered. -/
theorem Numbered.enqueueAll {before after : Store.Table String EventRow}
    (numbered : Numbered before) (events : List (OutboxEventInput × String))
    (enqueued : Outbox.enqueueAll before events = some after) : Numbered after := by
  have entries := Outbox.enqueueAll_entries before after events enqueued
  rw [Numbered, entries, List.map_append, numbered, numbered.next, pendingEntries_sequences,
    List.length_append, pendingEntries_length, Nat.add_comm before.entries.length 1,
    List.range'_append_1]

/-! ## Transactions that enqueue -/

/-- What a transaction leaves: the outbox with some more events in it. -/
def Enqueued (before after : Db) : Prop :=
  ∃ events, (∀ event ∈ events, Canonical.plain (.obj event.1.body) = true) ∧
    Outbox.enqueueAll before.eventOutbox events = some after.eventOutbox

/-- Nothing is enqueued where the outbox stays as it is. -/
theorem Enqueued.of_same {before after : Db} (same : after.eventOutbox = before.eventOutbox) :
    Enqueued before after :=
  ⟨[], by simp, by rw [same]; rfl⟩

/-- What is enqueued in two parts is enqueued together. -/
theorem Enqueued.trans {before between after : Db} (first : Enqueued before between)
    (second : Enqueued between after) : Enqueued before after := by
  obtain ⟨firstEvents, firstPlain, firstAdded⟩ := first
  obtain ⟨secondEvents, secondPlain, secondAdded⟩ := second
  refine ⟨firstEvents ++ secondEvents, ?_, ?_⟩
  · intro event member
    rcases List.mem_append.mp member with early | late
    · exact firstPlain event early
    · exact secondPlain event late
  · rw [Outbox.enqueueAll_append, firstAdded]
    exact secondAdded

/-- Enqueueing keeps the rows numbered. -/
theorem Enqueued.numbered {before after : Db} (enqueued : Enqueued before after)
    (numbered : Numbered before.eventOutbox) : Numbered after.eventOutbox := by
  obtain ⟨events, -, added⟩ := enqueued
  exact numbered.enqueueAll events added

/-- Enqueueing never lowers the next number. -/
theorem Enqueued.next {before after : Db} (enqueued : Enqueued before after)
    (numbered : Numbered before.eventOutbox) :
    Outbox.nextSequence before.eventOutbox ≤ Outbox.nextSequence after.eventOutbox := by
  obtain ⟨events, -, added⟩ := enqueued
  rw [numbered.next, (numbered.enqueueAll events added).next,
    Outbox.enqueueAll_entries _ _ _ added, List.length_append]
  omega

/-- A statement enqueues events, or none. -/
theorem EventStatement.enqueued (statement : EventStatement) (before after : Db) (value : Unit)
    (executed : statement.block.run before = .ok (value, after)) : Enqueued before after := by
  cases statement with
  | change write keeps =>
    rw [EventStatement.block, Store.Block.run_put_ok] at executed
    exact Enqueued.of_same (keeps before after executed)
  | event input createdAt plain =>
    simp only [EventStatement.block, Store.Block.run_bind_ok, Store.Block.run_pure_ok] at executed
    obtain ⟨eventId, between, added, -, rfl⟩ := executed
    obtain ⟨-, outbox, appended, rfl⟩ :=
      (Outbox.enqueueEvent_ok_iff input createdAt before _ eventId).mp added
    exact ⟨[(input, createdAt)], by simpa using plain, appended⟩

/-- Statements that went through have enqueued their events. -/
theorem EventTransaction.body_enqueued (outcome : Except Raised Unit)
    (statements : List EventStatement) (before after : Db) (value : Unit)
    (executed : (body outcome statements).run before = .ok (value, after)) :
    Enqueued before after := by
  induction statements generalizing before with
  | nil =>
    cases outcome with
    | error error => cases executed
    | ok result =>
      have same_store : before = after := congrArg Prod.snd (Except.ok.inj executed)
      exact Enqueued.of_same (by rw [same_store])
  | cons statement rest inductionHypothesis =>
    rw [body, Store.Block.run_bind_ok] at executed
    obtain ⟨result, between, first, later⟩ := executed
    exact (statement.enqueued before between result first).trans
      (inductionHypothesis between later)

/-- An insertion under a number that was next at some time is refused, or that number is
still next. -/
theorem insertPending_stale (input : OutboxEventInput) (createdAt : String) (before after : Db)
    (sequence : Nat) (numbered : Numbered before.eventOutbox) (positive : 0 < sequence)
    (bound : sequence ≤ Outbox.nextSequence before.eventOutbox)
    (inserted : Outbox.insertPending input sequence createdAt before = .ok after) :
    Outbox.enqueueAll before.eventOutbox [(input, createdAt)] = some after.eventOutbox := by
  have unused : Outbox.sequenceUsed before.eventOutbox sequence = false := by
    cases used : Outbox.sequenceUsed before.eventOutbox sequence with
    | false => rfl
    | true => simp [Outbox.insertPending, used] at inserted
  have current : sequence = Outbox.nextSequence before.eventOutbox := by
    rw [numbered.next] at bound ⊢
    by_contra other
    have used := numbered.used sequence positive (by omega)
    simp [unused] at used
  subst current
  rw [Outbox.insertPending_next, Store.map_ok_iff] at inserted
  obtain ⟨outbox, filed, rfl⟩ := inserted
  simp [Outbox.enqueueAll, ((Db.inserting_ok_iff _ _ _ _ _ _).mp filed).1]

/-! ## The file at every point of a flush -/

/-- Where a flush stands: none is in progress, or one is about to append the first of some
rows, or it has appended a row that it has not marked yet. -/
inductive FlushPhase : Type
  | idle
  | appending (rows : List OutboxRow)
  | marking (row : OutboxRow) (rest : List OutboxRow)

namespace FlushPhase

/-- The rows the flush has selected and not marked yet. -/
def selected : FlushPhase → List OutboxRow
  | .idle => []
  | .appending rows => rows
  | .marking row rest => row :: rest

/-- The row the flush has appended and not marked yet. -/
def appended : FlushPhase → List OutboxRow
  | .marking row _ => [row]
  | _ => []

end FlushPhase

/-- How the file and the outbox agree: the rows are numbered and their bodies plain, written
rows come before pending ones, the rows a flush has yet to mark are the first pending ones,
and the file has the lines of the written rows and of the row about to be marked. -/
structure Delivered (log : EventLog) (phase : FlushPhase) : Prop where
  numbered : Numbered log.db.eventOutbox
  plain : ∀ row ∈ log.db.eventOutbox.entries, Canonical.plain row.2.body = true
  inOrder : ∀ earlier ∈ log.db.eventOutbox.entries, Flusher.written earlier = true →
    ∀ later ∈ log.db.eventOutbox.entries, Flusher.pending later = true →
      earlier.2.sequence < later.2.sequence
  selected : phase.selected <+: log.db.eventOutbox.entries.filter Flusher.pending
  file : log.jsonl = fileText ((log.db.eventOutbox.entries.filter Flusher.written ++
    phase.appended).map Flusher.eventLine)

namespace Delivered

variable {log : EventLog} {phase : FlushPhase}

/-- Nothing has been enqueued and the file is empty. -/
theorem empty (none : log.db.eventOutbox.entries = []) (blank : log.jsonl = "") :
    Delivered log .idle := by
  refine ⟨?_, ?_, ?_, ?_, ?_⟩
  · simp [Numbered, none]
  · simp [none]
  · simp [none]
  · simp [none, FlushPhase.selected]
  · rw [none, blank]
    rfl

/-- A flush that is over needs no selection. -/
theorem finished (delivered : Delivered log (.appending [])) : Delivered log .idle :=
  ⟨delivered.numbered, delivered.plain, delivered.inOrder, List.nil_prefix, delivered.file⟩

/-- Appended rows are pending. -/
theorem pendingEntries_pending (sequence : Nat) (events : List (OutboxEventInput × String)) :
    ∀ row ∈ Outbox.pendingEntries sequence events, row.2.status = .pending := by
  induction events generalizing sequence with
  | nil => simp [Outbox.pendingEntries]
  | cons event rest inductionHypothesis =>
    exact List.forall_mem_cons.mpr ⟨rfl, inductionHypothesis (sequence + 1)⟩

/-- Appended rows have plain bodies when the events do. -/
theorem pendingEntries_plain (sequence : Nat) (events : List (OutboxEventInput × String))
    (plain : ∀ event ∈ events, Canonical.plain (.obj event.1.body) = true) :
    ∀ row ∈ Outbox.pendingEntries sequence events, Canonical.plain row.2.body = true := by
  induction events generalizing sequence with
  | nil => simp [Outbox.pendingEntries]
  | cons event rest inductionHypothesis =>
    obtain ⟨here, later⟩ := List.forall_mem_cons.mp plain
    exact List.forall_mem_cons.mpr
      ⟨Canonical.plain_redacted _ here, inductionHypothesis (sequence + 1) later⟩

/-- A transaction that enqueues leaves the file in agreement. -/
theorem enqueued (delivered : Delivered log phase) (after : Db)
    (added : Enqueued log.db after) : Delivered { log with db := after } phase := by
  obtain ⟨events, plain, appended⟩ := added
  have entries := Outbox.enqueueAll_entries _ _ _ appended
  have new := pendingEntries_pending (Outbox.nextSequence log.db.eventOutbox) events
  have greater := (Outbox.pendingEntries_ordered (Outbox.nextSequence log.db.eventOutbox) events).2
  have unwritten : (Outbox.pendingEntries (Outbox.nextSequence log.db.eventOutbox) events).filter
      Flusher.written = [] := by
    rw [List.filter_eq_nil_iff]
    intro row member
    simp [Flusher.written, new row member]
  have written : after.eventOutbox.entries.filter Flusher.written =
      log.db.eventOutbox.entries.filter Flusher.written := by
    rw [entries, List.filter_append, unwritten, List.append_nil]
  refine ⟨delivered.numbered.enqueueAll events appended, ?_, ?_, ?_, ?_⟩
  · rw [entries]
    exact List.forall_mem_append.mpr
      ⟨delivered.plain, pendingEntries_plain _ events plain⟩
  · intro earlier inAfter isWritten later member isPending
    have old : earlier ∈ log.db.eventOutbox.entries :=
      (List.mem_filter.mp (written ▸ List.mem_filter.mpr ⟨inAfter, isWritten⟩)).1
    rw [entries] at member
    rcases List.mem_append.mp member with stored | filed
    · exact delivered.inOrder earlier old isWritten later stored isPending
    · exact Nat.lt_of_lt_of_le (Outbox.lt_nextSequence _ earlier old) (greater later filed)
  · rw [entries, List.filter_append]
    exact delivered.selected.trans (List.prefix_append _ _)
  · rw [written]
    exact delivered.file

/-- A selection takes the first pending rows. -/
theorem fetched (delivered : Delivered log .idle) (limit : Int) (rows : List OutboxRow)
    (selection : Flusher.pendingEvents limit log.db = .ok rows) :
    rows = Flusher.limited limit (log.db.eventOutbox.entries.filter Flusher.pending) ∧
      Delivered log (.appending rows) := by
  have ordered : (log.db.eventOutbox.entries.filter Flusher.pending).Pairwise
      (fun left right => left.2.sequence ≤ right.2.sequence) :=
    (delivered.numbered.pairwise.filter _).imp Nat.le_of_lt
  rw [Flusher.pendingEvents, ordered.insertionSort_eq] at selection
  split at selection
  · have same_rows := (Except.ok.inj selection).symm
    refine ⟨same_rows, delivered.numbered, delivered.plain, delivered.inOrder, ?_, delivered.file⟩
    rw [same_rows]
    change Flusher.limited limit _ <+: _
    unfold Flusher.limited
    split
    · exact List.prefix_rfl
    · exact List.take_prefix _ _
  · cases selection

/-- An append writes the line of the first selected row. -/
theorem append (row : OutboxRow) (rest : List OutboxRow)
    (delivered : Delivered log (.appending (row :: rest))) :
    ∃ document, Flusher.eventRowToDocument row = .ok document ∧
      Delivered { log with jsonl := log.jsonl ++ Canonical.canonicalJsonDumps document ++ "\n" }
        (.marking row rest) := by
  have stored : row ∈ log.db.eventOutbox.entries :=
    (List.mem_filter.mp (delivered.selected.subset List.mem_cons_self)).1
  obtain ⟨document, parsed, text⟩ :=
    Flusher.eventRowToDocument_plain row (delivered.plain row stored)
  refine ⟨document, parsed, delivered.numbered, delivered.plain, delivered.inOrder,
    delivered.selected, ?_⟩
  have file := delivered.file
  simp only [FlushPhase.appended, List.append_nil] at file ⊢
  rw [text, file, ← fileText_concat, List.map_append]
  rfl

/-- The first pending row stands behind the written rows, and every other pending row behind
it. -/
theorem split (delivered : Delivered log phase) (row : OutboxRow) (rest : List OutboxRow)
    (first : log.db.eventOutbox.entries.filter Flusher.pending = row :: rest) :
    ∃ before after, log.db.eventOutbox.entries = before ++ row :: after ∧
      Flusher.pending row = true ∧ before.filter Flusher.pending = [] ∧
      after.filter Flusher.pending = rest ∧ after.filter Flusher.written = [] := by
  obtain ⟨before, after, entries, none, here, others⟩ := List.filter_eq_cons_iff.mp first
  refine ⟨before, after, entries, here, by simpa [List.filter_eq_nil_iff] using none, others, ?_⟩
  rw [List.filter_eq_nil_iff]
  intro later member isWritten
  have ordered := delivered.numbered.pairwise
  have inOrder := delivered.inOrder later
  rw [entries] at ordered inOrder
  have behind := (List.pairwise_cons.mp (List.pairwise_append.mp ordered).2.1).1 later member
  have ahead := inOrder (by simp [member]) isWritten row (by simp) here
  omega

/-- Marking the first pending row, once its line is in the file exactly if it is marked
written. -/
theorem marked (row : OutboxRow) (rest : List OutboxRow) (rewrite : EventRow → EventRow)
    (delivered : Delivered log phase) (chosen : phase.selected = row :: rest)
    (same : ∀ stored, (rewrite stored).sequence = stored.sequence ∧
      (rewrite stored).body = stored.body)
    (line : ∀ stored : OutboxRow, Flusher.eventLine (stored.1, rewrite stored.2) =
      Flusher.eventLine stored)
    (settled : Flusher.pending (row.1, rewrite row.2) = false)
    (agrees : [(row.1, rewrite row.2)].filter Flusher.written =
      phase.appended.map (fun stored => (stored.1, rewrite stored.2))) :
    Delivered { log with db := { log.db with
      eventOutbox := log.db.eventOutbox.modify row.1 rewrite } } (.appending rest) := by
  obtain ⟨tail, first⟩ := delivered.selected
  rw [chosen, List.cons_append] at first
  obtain ⟨before, after, entries, here, none, others, unwritten⟩ :=
    delivered.split row (rest ++ tail) first.symm
  have entriesAfter := Store.Table.entries_modify log.db.eventOutbox row.1 row.2 rewrite before
    after entries
  have pendingAfter : (log.db.eventOutbox.modify row.1 rewrite).entries.filter Flusher.pending =
      rest ++ tail := by
    rw [entriesAfter, List.filter_append, List.filter_cons, settled, none, others]
    rfl
  have notWritten : Flusher.written row = false := by
    simp only [Flusher.pending, Flusher.written, decide_eq_true_eq, decide_eq_false_iff_not] at here ⊢
    simp [here]
  have writtenBefore : log.db.eventOutbox.entries.filter Flusher.written =
      before.filter Flusher.written := by
    rw [entries, List.filter_append, List.filter_cons, notWritten, unwritten]
    simp
  have writtenAfter : (log.db.eventOutbox.modify row.1 rewrite).entries.filter Flusher.written =
      before.filter Flusher.written ++ [(row.1, rewrite row.2)].filter Flusher.written := by
    rw [entriesAfter, List.filter_append, ← List.singleton_append, List.filter_append, unwritten,
      List.append_nil]
  have sequences : (log.db.eventOutbox.modify row.1 rewrite).entries.map
      (fun entry => entry.2.sequence) = log.db.eventOutbox.entries.map
        (fun entry => entry.2.sequence) := by
    rw [entriesAfter, entries]
    simp [same row.2]
  refine ⟨?_, ?_, ?_, ?_, ?_⟩
  · have numbered := delivered.numbered
    have lengths := congrArg List.length sequences
    rw [List.length_map, List.length_map] at lengths
    rw [Numbered] at numbered ⊢
    rw [sequences, lengths]
    exact numbered
  · intro stored member
    have plain := delivered.plain
    rw [entries] at plain
    rw [entriesAfter] at member
    rcases List.mem_append.mp member with old | new
    · exact plain stored (by simp [old])
    · rcases List.mem_cons.mp new with changed | old
      · rw [changed]
        simpa [(same row.2).2] using plain row (by simp)
      · exact plain stored (by simp [old])
  · intro earlier inEarlier isWritten later inLater isPending
    have ordered := delivered.numbered.pairwise
    rw [entries] at ordered
    have behind := (List.pairwise_cons.mp (List.pairwise_append.mp ordered).2.1).1
    have stillPending : later ∈ after := by
      have member : later ∈ after.filter Flusher.pending := by
        rw [others, ← pendingAfter]
        exact List.mem_filter.mpr ⟨inLater, isPending⟩
      exact (List.mem_filter.mp member).1
    have member : earlier ∈ before.filter Flusher.written ++
        [(row.1, rewrite row.2)].filter Flusher.written := by
      rw [← writtenAfter]
      exact List.mem_filter.mpr ⟨inEarlier, isWritten⟩
    rcases List.mem_append.mp member with old | new
    · have stored := (List.mem_filter.mp old).1
      exact (List.pairwise_append.mp ordered).2.2 earlier stored later (by simp [stillPending])
    · have changed := List.mem_singleton.mp (List.mem_filter.mp new).1
      rw [changed]
      simpa [(same row.2).1] using behind later stillPending
  · rw [pendingAfter]
    exact List.prefix_append rest tail
  · have file := delivered.file
    have lines : (phase.appended.map (fun stored => (stored.1, rewrite stored.2))).map
        Flusher.eventLine = phase.appended.map Flusher.eventLine := by
      rw [List.map_map]
      exact List.map_congr_left (fun stored _ => line stored)
    rw [writtenBefore] at file
    have nothing : (FlushPhase.appending rest).appended = [] := rfl
    rw [writtenAfter, agrees, nothing, List.append_nil, List.map_append, lines, ← List.map_append]
    exact file

/-- Marking the appended row written. -/
theorem markedWritten (row : OutboxRow) (rest : List OutboxRow) (writtenAt : String)
    (delivered : Delivered log (.marking row rest)) :
    Delivered { log with db := Flusher.markWritten writtenAt row.1 log.db } (.appending rest) :=
  delivered.marked row rest _ rfl (fun _ => ⟨rfl, rfl⟩) (fun _ => rfl) rfl rfl

/-- Marking the row failed whose append raised. -/
theorem markedFailed (row : OutboxRow) (rest : List OutboxRow) (error : String)
    (delivered : Delivered log (.appending (row :: rest))) :
    Delivered { log with db := Flusher.markFailed error row.1 log.db } (.appending rest) :=
  delivered.marked row rest _ rfl (fun _ => ⟨rfl, rfl⟩) (fun _ => rfl) rfl rfl

end Delivered

end TokenBank
