import TokenBank.Core.Loads
import TokenBank.Core.Runtime
import TokenBank.Order.Ranking
import TokenBank.Store.Table

/-!
# The spool of completed results

A result that could not be submitted is written to a file of its own, named after its
assignment, with the hash of the lease token in place of the token. The completed entries are
read from the files in the order of their names.
-/

namespace TokenBank

/-- A result waiting to be submitted. -/
structure CompletedSpoolEntry where
  spoolId : String
  status : String := "completed"
  assignmentId : String
  workerId : String
  leaseTokenHash : String
  output : JsonObject

namespace CompletedSpoolEntry

/-- The document of an entry. -/
def modelDump (entry : CompletedSpoolEntry) : Json :=
  .obj [("spool_id", .str entry.spoolId), ("status", .str entry.status),
    ("assignment_id", .str entry.assignmentId), ("worker_id", .str entry.workerId),
    ("lease_token_hash", .str entry.leaseTokenHash), ("output", .obj entry.output)]

/-- A text under a key. -/
def textUnder (fields : JsonObject) (key : String) : Option String :=
  match Json.get fields key with
  | .str text => some text
  | _ => none

/-- The object under a key. -/
def objectUnder (fields : JsonObject) (key : String) : Option JsonObject :=
  match Json.get fields key with
  | .obj members => some members
  | _ => none

/-- The entry that a document gives, if its members are of the right kinds. -/
def modelValidate : Json → Option CompletedSpoolEntry
  | .obj fields => do
    let spoolId ← textUnder fields "spool_id"
    let status ← if Json.has fields "status" then textUnder fields "status" else some "completed"
    let assignmentId ← textUnder fields "assignment_id"
    let workerId ← textUnder fields "worker_id"
    let leaseTokenHash ← textUnder fields "lease_token_hash"
    let output ← objectUnder fields "output"
    return { spoolId, status, assignmentId, workerId, leaseTokenHash, output }
  | _ => none

end CompletedSpoolEntry

namespace ResultSpool

/-- The files of a spool by their names. -/
abbrev Files := Store.Table String String

/-- The entry for a result. -/
def completedEntry (leaseTokenHash : String → String) (assignmentId workerId leaseToken : String)
    (output : JsonObject) : CompletedSpoolEntry where
  spoolId := "spool_" ++ assignmentId
  assignmentId := assignmentId
  workerId := workerId
  leaseTokenHash := leaseTokenHash leaseToken
  output := output

/-- Write the entry for a result to its file, in place of an earlier one. -/
def writeCompleted (leaseTokenHash : String → String) (files : Files)
    (assignmentId workerId leaseToken : String) (output : JsonObject) : Files :=
  let entry := completedEntry leaseTokenHash assignmentId workerId leaseToken output
  let text := Canonical.canonicalJsonDumps entry.modelDump
  files.upsert (entry.spoolId ++ ".json") text (fun _ => text)

/-- The entry that a file holds. -/
def readEntry (text : String) : Except Raised CompletedSpoolEntry :=
  match Canonical.jsonLoads text with
  | none => .error (.valueError text)
  | some payload =>
    match CompletedSpoolEntry.modelValidate payload with
    | some entry => .ok entry
    | none => .error .validationError

/-- The files whose names end in .json, in the order of their names. -/
def jsonFiles (files : Files) : List (String × String) :=
  Ranking.ranked Prod.fst (files.entries.filter (fun file =>
    ".json".toList.isSuffixOf file.1.toList))

/-- The completed entries with the names of their files. -/
def completedEntries (files : Files) : Except Raised (List (String × CompletedSpoolEntry)) := do
  let entries ← (jsonFiles files).mapM (fun file =>
    (readEntry file.2).map (fun entry => (file.1, entry)))
  return entries.filter (fun named => named.2.status = "completed")

/-- Remove a file, if it is there. -/
def remove (files : Files) (path : String) : Files := files.delete (fun name _ => name = path)

end ResultSpool

end TokenBank
