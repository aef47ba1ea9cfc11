import TokenBank.Core.Loads
import TokenBank.Core.Rereading
import TokenBank.Events.Outbox
import TokenBank.Store.Composition

/-!
# Flushing the outbox to the JSONL file

A flush selects pending rows in the order of their sequence numbers, appends the document
of each to the file as one line, and marks the row written. A row whose append raised an
`OSError` is marked failed instead, and the flush goes on with the next one. The selection,
each append and each marking is a turn of its own, so that transactions of other
connections come in between.

An append that raises has written nothing. Which appends raise, and with which message, is
a parameter of a flush.
-/

namespace TokenBank

/-- The committed tables and the text of the JSONL file. -/
structure EventLog where
  db : Db
  jsonl : String

/-- The tables as a part of the log. -/
def EventLog.tables : Store.Part EventLog Db where
  read := EventLog.db
  replace := fun log db => { log with db := db }
  read_replace := fun _ _ => rfl
  replace_read := fun _ => rfl
  replace_replace := fun _ _ _ => rfl

/-- An outbox row as a query returns it, with its key. -/
abbrev OutboxRow := String × EventRow

/-- What a flush reports. -/
structure FlushResult where
  written : Nat := 0
  failed : Nat := 0

namespace Flusher

/-- The document of a row around the value that its body column holds. -/
def documentOf (row : OutboxRow) (body : Json) : JsonObject :=
  [("event_id", .str row.1), ("source", .str row.2.source), ("type", .str row.2.type),
    ("subject", .str row.2.subject), ("run_id", .optional row.2.runId),
    ("work_unit_id", .optional row.2.workUnitId), ("attempt_id", .optional row.2.attemptId),
    ("assignment_id", .optional row.2.assignmentId), ("trace_id", .str row.2.traceId),
    ("span_id", .optional row.2.spanId), ("sequence", .nat row.2.sequence), ("body", body),
    ("created_at", .str row.2.createdAt)]

/-- The document of a row. The text of its body column is parsed; the message of the
parser's exception is kept without the position it ends with. -/
def eventRowToDocument (row : OutboxRow) : Except Raised Json :=
  match Canonical.jsonLoads (Canonical.canonicalJsonDumps row.2.body) with
  | none => .error (.valueError "Expecting value")
  | some body => .ok (.obj (documentOf row body))

/-- Append the document of a row and the end of its line. An append that is struck raises an
`OSError` with the given message, which the flush catches. -/
def appendEventJsonl (struck : Option String) (row : OutboxRow) :
    Store.Client EventLog Raised (Except String Unit) :=
  match struck with
  | some error => pure (.error error)
  | none => do
    .implicitly (.put (fun log => (eventRowToDocument row).map (fun document =>
      { log with jsonl := log.jsonl ++ Canonical.canonicalJsonDumps document ++ "\n" })))
    return .ok ()

/-- The row is not flushed yet. -/
def pending (row : OutboxRow) : Bool := row.2.status = .pending

/-- The row is flushed. -/
def written (row : OutboxRow) : Bool := row.2.status = .written

/-- The first rows of a query with a limit. A negative limit is none. -/
def limited {α : Type} (limit : Int) (rows : List α) : List α :=
  if limit < 0 then rows else rows.take limit.toNat

/-- Pending rows by sequence number, up to a limit. -/
def pendingEvents (limit : Int) (db : Db) : Except Raised (List OutboxRow) :=
  if Db.bindable limit then
    .ok (limited limit ((db.eventOutbox.entries.filter pending).insertionSort
      (fun left right => left.2.sequence ≤ right.2.sequence)))
  else .error .overflowError

/-- Mark an event written at a time. -/
def markWritten (writtenAt eventId : String) (db : Db) : Db :=
  { db with eventOutbox := db.eventOutbox.modify eventId (fun row =>
    { row with status := .written, writtenAt := some writtenAt, lastError := none }) }

/-- Mark an event failed with the message of an error. -/
def markFailed (error eventId : String) (db : Db) : Db :=
  { db with eventOutbox := db.eventOutbox.modify eventId (fun row =>
    { row with
      status := .failed
      failureCount := row.failureCount + 1
      lastError := some error }) }

/-- A marking, committed by itself. -/
def marking (mark : Db → Db) : Store.Client EventLog Raised Unit :=
  .implicitly (.put (fun log => .ok { log with db := mark log.db }))

/-- Flush rows from a position of the selection on. -/
def flushRows (struck : Nat → Option String) (writtenAt : Nat → String) :
    Nat → List OutboxRow → FlushResult → Store.Client EventLog Raised FlushResult
  | _, [], result => pure result
  | position, row :: rest, result => do
    match ← appendEventJsonl (struck position) row with
    | .error error =>
      marking (markFailed error row.1)
      flushRows struck writtenAt (position + 1) rest { result with failed := result.failed + 1 }
    | .ok () =>
      marking (markWritten (writtenAt position) row.1)
      flushRows struck writtenAt (position + 1) rest { result with written := result.written + 1 }

/-- Flush pending rows, updating each row after its append. -/
def flushPendingEvents (limit : Int) (struck : Nat → Option String) (writtenAt : Nat → String) :
    Store.Client EventLog Raised FlushResult := do
  let rows ← .fetch (fun log => pendingEvents limit log.db)
  flushRows struck writtenAt 0 rows {}

end Flusher

/-- A statement of a transaction that enqueues events: the insertion of an event, whose body
is a value that has a canonical text, or a change to other tables. -/
inductive EventStatement : Type
  | change (write : Db → Except Raised Db)
      (keeps : ∀ before after, write before = .ok after → after.eventOutbox = before.eventOutbox)
  | event (input : OutboxEventInput) (createdAt : String)
      (plain : Canonical.plain (.obj input.body) = true)

/-- The statement as a block. -/
def EventStatement.block : EventStatement → Store.Block Db Raised Unit
  | .change write _ => .put write
  | .event input createdAt _ => do
    let _ ← Outbox.enqueueEvent input createdAt
    return ()

/-- A transaction that enqueues events, opened explicitly or by its first write. It commits,
or it raises an exception and is rolled back. -/
structure EventTransaction where
  statements : List EventStatement
  explicit : Bool
  outcome : Except Raised Unit

namespace EventTransaction

/-- Statements one after the other, and then the outcome. -/
def body (outcome : Except Raised Unit) : List EventStatement → Store.Block Db Raised Unit
  | [] =>
    match outcome with
    | .ok value => .done value
    | .error error => .raise error
  | statement :: rest => do
    statement.block
    body outcome rest

/-- The transaction on its connection. -/
def client (transaction : EventTransaction) : Store.Client Db Raised Unit :=
  if transaction.explicit then
    .transaction Db.nestedTransaction (body transaction.outcome transaction.statements)
  else .implicitly (body transaction.outcome transaction.statements)

end EventTransaction

/-- What is done to the event log. -/
inductive EventOp : Type
  | enqueue (transaction : EventTransaction)
  | flush (limit : Int) (struck : Nat → Option String) (writtenAt : Nat → String)

/-- The operation is a flush. -/
def EventOp.flushes : EventOp → Bool
  | .enqueue _ => false
  | .flush _ _ _ => true

/-- The program of an operation. -/
def EventOp.program : EventOp → Store.Client EventLog Raised (Option FlushResult)
  | .enqueue transaction => (do
      transaction.client
      return none : Store.Client Db Raised (Option FlushResult)).on EventLog.tables.read
        EventLog.tables.replace
  | .flush limit struck writtenAt => do
    let result ← Flusher.flushPendingEvents limit struck writtenAt
    return some result

/-! ## What the file says -/

/-- The lines of a text: what stands before each of its line ends. -/
def logLines (text : String) : List String :=
  ((text.toList.splitOn '\n').dropLast).map String.ofList

/-- An event as a document describes it. The body is given by its canonical text, as the
row's body column has it. -/
structure EventDocument where
  eventId : String
  source : String
  type : String
  subject : String
  runId : Option String
  workUnitId : Option String
  attemptId : Option String
  assignmentId : Option String
  traceId : String
  spanId : Option String
  sequence : Int
  bodyJson : String
  createdAt : String
deriving DecidableEq

namespace EventDocument

/-- The event of a row. -/
def ofRow (row : OutboxRow) : EventDocument where
  eventId := row.1
  source := row.2.source
  type := row.2.type
  subject := row.2.subject
  runId := row.2.runId
  workUnitId := row.2.workUnitId
  attemptId := row.2.attemptId
  assignmentId := row.2.assignmentId
  traceId := row.2.traceId
  spanId := row.2.spanId
  sequence := row.2.sequence
  bodyJson := Canonical.canonicalJsonDumps row.2.body
  createdAt := row.2.createdAt

/-- A value that has to be a string. -/
def text : Json → Option String
  | .str text => some text
  | _ => none

/-- A value that has to be a string or null. -/
def optionalText : Json → Option (Option String)
  | .str text => some (some text)
  | .null => some none
  | _ => none

/-- A value that has to be an integer. -/
def integer : Json → Option Int
  | .int value => some value
  | _ => none

/-- Read an event out of a document. -/
def ofDocument (fields : JsonObject) : Option EventDocument := do
  let eventId ← text (Json.get fields "event_id")
  let source ← text (Json.get fields "source")
  let type ← text (Json.get fields "type")
  let subject ← text (Json.get fields "subject")
  let runId ← optionalText (Json.get fields "run_id")
  let workUnitId ← optionalText (Json.get fields "work_unit_id")
  let attemptId ← optionalText (Json.get fields "attempt_id")
  let assignmentId ← optionalText (Json.get fields "assignment_id")
  let traceId ← text (Json.get fields "trace_id")
  let spanId ← optionalText (Json.get fields "span_id")
  let sequence ← integer (Json.get fields "sequence")
  let createdAt ← text (Json.get fields "created_at")
  return { eventId, source, type, subject, runId, workUnitId, attemptId, assignmentId, traceId,
           spanId, sequence, createdAt
           bodyJson := Canonical.canonicalJsonDumps (Json.get fields "body") }

/-- Read an event out of a line. -/
def ofLine (line : String) : Option EventDocument :=
  match Canonical.jsonLoads line with
  | some (.obj fields) => ofDocument fields
  | _ => none

end EventDocument

end TokenBank
