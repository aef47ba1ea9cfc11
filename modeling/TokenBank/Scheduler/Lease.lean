import TokenBank.Core.Clock
import TokenBank.Events.Outbox

/-!
# Lease tokens and the conditional assignment update

What a call draws from outside the database (random identifiers, clock readings,
a random token) is an argument of the call. The two functions of third parties
the scheduler relies on, the digest and the model validation, are fields of a
platform that every operation takes.
-/

namespace TokenBank

/-- The digest of a text as hexadecimal digits, and the validation of a JSON
object as a result envelope. -/
structure Platform where
  sha256 : String → String
  modelValidate : JsonObject → Option WorkUnitResultEnvelope

/-- What one call draws: its random identifiers and clock readings by position
in the call, and a random URL-safe token. -/
structure Draws where
  uuid : Nat → String
  clock : Nat → Instant
  token : String

namespace Draws

/-- The stored text of a clock reading. -/
def utcText (draws : Draws) (position : Nat) : String := Clock.utcText (draws.clock position)

/-- The trace id and the event id of an event, drawn one after the other. -/
def event (draws : Draws) (position : Nat) (source type subject : String)
    (workUnitId attemptId assignmentId : Option String) (body : JsonObject) :
    OutboxEventInput where
  source := source
  type := type
  subject := subject
  workUnitId := workUnitId
  attemptId := attemptId
  assignmentId := assignmentId
  body := body
  traceId := draws.uuid position
  eventId := "evt_" ++ draws.uuid (position + 1)

end Draws

namespace Lease

/-- How long a lease lasts unless the caller says otherwise. -/
def defaultLeaseDurationMs : Int := 30000

/-- A new raw token. -/
def newLeaseToken (draws : Draws) : String := "tbk_l_" ++ draws.token

/-- The hash under which a token is stored and spooled. -/
def leaseTokenHash (platform : Platform) (rawToken : String) : String :=
  platform.sha256 ("tokenbank.assignment.lease.v1\x00" ++ rawToken)

/-- The part of a token that may be shown. -/
def leaseTokenPrefix (rawToken : String) : String := String.ofList (rawToken.toList.take 16)

/-- The stored text of the end of a lease. -/
def leaseExpiry (draws : Draws) (position : Nat) (milliseconds : Int) : Except Raised String :=
  match Clock.later (draws.clock position) milliseconds with
  | some instant => .ok (Clock.utcText instant)
  | none => .error .overflowError

/-- A present, non-empty text. -/
def given : Option String → Bool
  | none => false
  | some text => text ≠ ""

/-- The presented token hashes to the stored hash. -/
def TokenMatches (platform : Platform) (storedHash rawToken : Option String) : Prop :=
  given storedHash = true ∧ given rawToken = true ∧
    rawToken.map (leaseTokenHash platform) = storedHash
  deriving Decidable

/-- The presented hash is the stored hash. -/
def HashMatches (storedHash providedHash : Option String) : Prop :=
  given storedHash = true ∧ given providedHash = true ∧ providedHash = storedHash
  deriving Decidable

/-- Refuse a token that does not match. -/
def verifyLeaseToken (platform : Platform) (storedHash rawToken : Option String) :
    Except Raised Unit :=
  Store.ensure (TokenMatches platform storedHash rawToken)
    (.permissionError "invalid assignment lease token")

/-- Refuse a token hash that does not match. -/
def verifyLeaseTokenHash (storedHash providedHash : Option String) : Except Raised Unit :=
  Store.ensure (HashMatches storedHash providedHash)
    (.permissionError "invalid assignment lease token hash")

/-- The columns a conditional update writes; absent values leave the stored ones. -/
structure LeaseUpdate where
  status : AssignmentStatus
  leaseExpiresAt : Option String
  leaseTokenHash : Option String := none
  leaseTokenPrefix : Option String := none
  acceptedAt : Option String := none
  completedAt : Option String := none
  updatedAt : String

/-- The row after a conditional update, under its new version. -/
def LeaseUpdate.apply (update : LeaseUpdate) (version : Int) (row : AssignmentRow) :
    AssignmentRow :=
  { row with
    status := update.status
    leaseVersion := version
    leaseExpiresAt := update.leaseExpiresAt
    leaseTokenHash := update.leaseTokenHash.or row.leaseTokenHash
    leaseTokenPrefix := update.leaseTokenPrefix.or row.leaseTokenPrefix
    acceptedAt := update.acceptedAt.or row.acceptedAt
    completedAt := update.completedAt.or row.completedAt
    updatedAt := some update.updatedAt }

/-- Read a row of `assignments`, or raise. -/
def assignment (assignmentId : String) (db : Db) : Except Raised AssignmentRow :=
  match db.assignments.find? assignmentId with
  | some row => .ok row
  | none => .error (.keyError ("assignment not found: " ++ assignmentId))

/-- The condition of the conditional update: the row is the named one and its
version is the expected one. -/
def leased (assignmentId : String) (expectedLeaseVersion : Int) (other : String)
    (row : AssignmentRow) : Bool :=
  decide (other = assignmentId) && decide (row.leaseVersion = expectedLeaseVersion)

/-- The statement of the conditional update, with the number of rows it touched. -/
def updateLeased (assignmentId : String) (expectedLeaseVersion nextVersion : Int)
    (update : LeaseUpdate) (db : Db) : Except Raised (Db × Nat) :=
  let selects := leased assignmentId expectedLeaseVersion
  let assignments := db.assignments.update selects (update.apply nextVersion)
  if Db.bindable nextVersion && Db.bindable expectedLeaseVersion then
    .ok ({ db with assignments := assignments }, (db.assignments.select selects).length)
  else .error .overflowError

/-- Update an assignment if its version is the expected one, incrementing the
version, and read the row back. -/
def conditionalAssignmentUpdate (assignmentId : String) (expectedLeaseVersion : Int)
    (update : LeaseUpdate) : Store.Block Db Raised AssignmentRow := do
  let current ← .fetch (assignment assignmentId)
  let nextVersion := current.leaseVersion + 1
  let rows ← .perform (updateLeased assignmentId expectedLeaseVersion nextVersion update)
  if rows = 0 then .raise (.leaseConflictError "assignment lease_version conflict")
  else .fetch (fun db => match db.assignments.find? assignmentId with
    | some row => .ok row
    | none => .error .typeError)

/-- The statement touches the named row exactly when its version is the expected
one, and no other row in any case. -/
theorem updateLeased_of_find (assignmentId : String) (expectedLeaseVersion nextVersion : Int)
    (update : LeaseUpdate) (before after : Db) (row : AssignmentRow) (rows : Nat)
    (found : before.assignments.find? assignmentId = some row) :
    (updateLeased assignmentId expectedLeaseVersion nextVersion update before = .ok (after, rows) ∧
        rows ≠ 0) ↔
      row.leaseVersion = expectedLeaseVersion ∧ Db.bindable nextVersion = true ∧
        Db.bindable expectedLeaseVersion = true ∧
        rows = (before.assignments.select (leased assignmentId expectedLeaseVersion)).length ∧
        after = { before with
          assignments := before.assignments.modify assignmentId (update.apply nextVersion) } := by
  have touched : (before.assignments.select (leased assignmentId expectedLeaseVersion)).length ≠ 0 ↔
      row.leaseVersion = expectedLeaseVersion := by
    rw [ne_eq, List.length_eq_zero_iff]
    unfold leased
    rw [Store.Table.select_key_nil_iff]
    simp [found]
  unfold updateLeased
  by_cases bound : (Db.bindable nextVersion && Db.bindable expectedLeaseVersion) = true
  · simp only [bound, if_true, Except.ok.injEq, Prod.mk.injEq]
    simp only [Bool.and_eq_true] at bound
    constructor
    · rintro ⟨⟨rfl, rfl⟩, positive⟩
      have version := touched.mp positive
      refine ⟨version, bound.1, bound.2, rfl, ?_⟩
      unfold leased
      rw [Store.Table.update_key before.assignments assignmentId row _ _ found (by simp [version])]
    · rintro ⟨version, -, -, rfl, rfl⟩
      refine ⟨⟨?_, rfl⟩, touched.mpr version⟩
      unfold leased
      rw [Store.Table.update_key before.assignments assignmentId row _ _ found (by simp [version])]
  · simp only [bound, Bool.false_eq_true, if_false]
    simp only [Bool.and_eq_true] at bound
    constructor
    · rintro ⟨impossible, -⟩
      cases impossible
    · rintro ⟨-, next, expected, -⟩
      exact absurd ⟨next, expected⟩ bound

/-- The conditional update succeeds exactly when the stored version is the
expected one. It writes that one row under the next version, and returns it. -/
theorem conditionalAssignmentUpdate_ok_iff (assignmentId : String) (expectedLeaseVersion : Int)
    (update : LeaseUpdate) (before after : Db) (result : AssignmentRow) :
    (conditionalAssignmentUpdate assignmentId expectedLeaseVersion update).run before =
        .ok (result, after) ↔
      ∃ row, before.assignments.find? assignmentId = some row ∧
        row.leaseVersion = expectedLeaseVersion ∧
        Db.bindable (row.leaseVersion + 1) = true ∧ Db.bindable expectedLeaseVersion = true ∧
        result = update.apply (row.leaseVersion + 1) row ∧
        after = { before with assignments :=
          before.assignments.modify assignmentId (update.apply (row.leaseVersion + 1)) } := by
  simp only [conditionalAssignmentUpdate, assignment, Store.Block.run_bind_ok,
    Store.Block.run_fetch_ok, Store.Block.run_perform_ok]
  cases found : before.assignments.find? assignmentId with
  | none => simp
  | some row =>
    constructor
    · rintro ⟨current, between, ⟨same, rfl⟩, rows, changed, written, read⟩
      have same_value := Except.ok.inj same
      subst same_value
      split at read
      · simp at read
      · rename_i positive
        obtain ⟨version, next, expected, -, rfl⟩ :=
          (updateLeased_of_find _ _ _ _ _ _ _ _ found).mp ⟨written, positive⟩
        simp only [Store.Block.run_fetch_ok, Store.Table.find?_modify_self, found,
          Option.map_some, Except.ok.injEq] at read
        exact ⟨row, rfl, version, next, expected, read.1.symm, read.2⟩
    · rintro ⟨current, same, version, next, expected, rfl, rfl⟩
      have same_row := Option.some.inj same
      subst same_row
      obtain ⟨written, positive⟩ :=
        (updateLeased_of_find assignmentId expectedLeaseVersion (row.leaseVersion + 1) update before
          _ row _ found).mpr ⟨version, next, expected, rfl, rfl⟩
      refine ⟨row, before, ⟨rfl, rfl⟩, _, _, written, ?_⟩
      rw [if_neg positive]
      simp [Store.Table.find?_modify_self, found]

end Lease

end TokenBank
