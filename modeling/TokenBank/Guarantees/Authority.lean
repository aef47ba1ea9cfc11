import TokenBank.Guarantees.Leases

/-!
# Lease authority

When calls run one at a time, the hash stored for an assignment is that of the
token granted last. Whoever progresses the assignment or submits a result for it
is therefore its own worker and presents that very token, or its hash, as long as
no two tokens share a hash.

The stored hash is written by acceptances only. An assignment that was never
accepted has none, and no credentials match an absent hash, so it can only have
been rejected.
-/

namespace TokenBank

namespace Authority

/-- The grant that was returned last for an assignment. -/
def lastGrant (key : String) (replies : List (SchedulerOp × Reply)) : Option Scheduler.LeaseGrant :=
  (Leases.grants key replies).getLast?

/-- One more reply carries the last grant, or leaves it. -/
theorem lastGrant_append (key : String) (replies : List (SchedulerOp × Reply)) (op : SchedulerOp)
    (reply : Reply) : lastGrant key (replies ++ [(op, reply)]) =
      (Leases.grantFor key (op, reply)).or (lastGrant key replies) := by
  rw [lastGrant, Leases.grants_append, List.getLast?_append]
  cases Leases.grantFor key (op, reply) <;> rfl

/-- The row of an assignment records its grants: it stores the hash of the token
granted last, and it was at most rejected if there is none. -/
structure Recorded (platform : Platform) (key : String) (db : Db)
    (replies : List (SchedulerOp × Reply)) : Prop where
  absent : db.assignments.find? key = none → lastGrant key replies = none
  hash : ∀ row, db.assignments.find? key = some row → row.leaseTokenHash =
    (lastGrant key replies).map (fun grant => Lease.leaseTokenHash platform grant.leaseToken)
  status : ∀ row, db.assignments.find? key = some row → lastGrant key replies = none →
    row.status = .created ∨ row.status = .rejected

/-- No credentials of a submission match an absent hash. -/
theorem unauthorised (platform : Platform) (submission : Scheduler.Submission) :
    ¬ submission.Authorised platform none := by
  unfold Scheduler.Submission.Authorised
  split
  · rintro ⟨given, -⟩
    cases given
  · rintro ⟨given, -⟩
    cases given

section Plans

variable {platform : Platform} {db after : Db} {op : SchedulerOp} {plan : Plan} {reply : Reply}

/-- Without a stored hash, only an acceptance takes an assignment beyond a
rejection.

Progress reports and submissions need credentials that match, and a sweep selects
leased assignments. -/
theorem status_ungranted (planned : SchedulerOp.Planned platform [db, db, db] op plan)
    (key : String) (row : AssignmentRow) (found : db.assignments.find? key = some row)
    (unhashed : row.leaseTokenHash = none) (ungranted : plan.granted key = none)
    (status : row.status = .created ∨ row.status = .rejected) :
    (plan.assignmentAfter platform key row).status = .created ∨
      (plan.assignmentAfter platform key row).status = .rejected := by
  cases planned with
  | accept draws assignmentId =>
    have other : key ≠ assignmentId := by simpa [Plan.granted] using ungranted
    simpa [Plan.assignmentAfter, other] using status
  | reject =>
    simp only [Plan.assignmentAfter]
    split
    · exact Or.inr rfl
    · exact status
  | progress draws assignmentId workerId leaseToken expectedLeaseVersion leaseDurationMs read
      assignment expiresAt looked own matched expiry =>
    have same_db : read = db := by simpa using looked
    subst same_db
    have other : key ≠ assignmentId := by
      rintro rfl
      obtain ⟨same_row, -⟩ := Scheduler.assignmentForWorker_stored _ _ _ row assignment found own
      rw [← same_row, unhashed] at matched
      cases matched.1
    simpa [Plan.assignmentAfter, other] using status
  | submit draws submission read attempted looked assignment attempt envelope saw admitted =>
    obtain ⟨rfl, -, -⟩ : db = read ∧ db = attempted ∧ db = looked := by simpa using saw
    have other : key ≠ submission.assignmentId := by
      rintro rfl
      have authorised := admitted.authorised
      obtain ⟨same_row, -⟩ :=
        Scheduler.assignmentForWorker_stored _ _ _ row assignment found admitted.found
      rw [← same_row, unhashed] at authorised
      exact unauthorised platform submission authorised
    simpa [Plan.assignmentAfter, other] using status
  | sweep draws read looked =>
    have same_db : read = db := by simpa using looked
    subst same_db
    rw [Plan.assignmentAfter, Scheduler.expiredRow_status]
    split
    · rename_i listed
      rcases Scheduler.expiredLeases_status _ read key row found listed with leased | leased <;>
        simp [leased] at status
    · exact status
  | nothing | createAttempt | scheduleRetry | scheduleFallback => exact status
  | createAssignment | assignNextWork => exact status

/-- A call that runs alone keeps the record of an assignment. -/
theorem performed_recorded (key : String) (replies : List (SchedulerOp × Reply))
    (planned : SchedulerOp.Planned platform [db, db, db] op plan)
    (performed : Performed platform db plan reply after)
    (recorded : Recorded platform key db replies) :
    Recorded platform key after (replies ++ [(op, reply)]) := by
  have token := Leases.grantFor_token performed op key
  constructor
  · intro missing
    have missed : db.assignments.find? key = none := by
      cases found : db.assignments.find? key with
      | none => rfl
      | some row =>
        rw [performed.assignment_kept key row found] at missing
        cases missing
    have ungranted : plan.granted key = none := by
      cases granted : plan.granted key with
      | none => rfl
      | some given =>
        obtain ⟨row, found, -⟩ := Leases.granted_row performed key given granted
        rw [missing] at found
        cases found
    rw [ungranted, Option.map_eq_none_iff] at token
    rw [lastGrant_append, token, Option.none_or]
    exact recorded.absent missed
  · intro row found
    rw [lastGrant_append, Option.map_or]
    rcases performed.assignment_origin key row found with
      ⟨earlier, read, rfl⟩ | ⟨missed, filed⟩
    · rw [Plan.assignmentAfter_hash, recorded.hash earlier read, ← token, Option.map_map]
      rfl
    · obtain ⟨ungranted, unhashed, -⟩ := plan.newAssignment_row key row filed
      rw [ungranted, Option.map_eq_none_iff] at token
      rw [unhashed, token, recorded.absent missed]
      rfl
  · intro row found ungranted
    rw [lastGrant_append, Option.or_eq_none_iff] at ungranted
    obtain ⟨none_now, none_before⟩ := ungranted
    rw [none_now, Option.map_none] at token
    rcases performed.assignment_origin key row found with
      ⟨earlier, read, rfl⟩ | ⟨missed, filed⟩
    · have unhashed := recorded.hash earlier read
      rw [none_before] at unhashed
      exact status_ungranted planned key earlier read unhashed token.symm
        (recorded.status earlier read none_before)
    · exact Or.inl (plan.newAssignment_row key row filed).2.2

end Plans

/-- Every session that starts from a fresh database records its grants. -/
theorem session_recorded (platform : Platform) (initial : Db) (fresh : Fresh initial)
    (ops : List SchedulerOp) (key : String) :
    WellFormed (Scheduler.session platform initial ops).db ∧
      Recorded platform key (Scheduler.session platform initial ops).db
        (Scheduler.session platform initial ops).replies := by
  have missing := Store.Table.find?_of_entries_nil _ fresh.assignments key
  apply Scheduler.session_invariant platform (Recorded platform key) initial fresh.wellFormed
  · exact ⟨fun _ => rfl, fun row found => by simp [missing] at found,
      fun row found => by simp [missing] at found⟩
  · intro op db plan reply after replies _ planned performed recorded
    exact performed_recorded key replies (op.plan_some platform _ plan planned) performed recorded

/-- A submission presents the token of a grant, or its hash where it brings one. -/
def Presents (platform : Platform) (submission : Scheduler.Submission)
    (grant : Scheduler.LeaseGrant) : Prop :=
  match submission.leaseTokenHash with
  | some provided => provided = Lease.leaseTokenHash platform grant.leaseToken
  | none => submission.leaseToken = some grant.leaseToken

/-- The worker owns the assignment, and what it presents goes with the token that
was granted last for it. -/
def HeldBy (session : Scheduler.Session) (assignmentId workerId : String)
    (presented : Scheduler.LeaseGrant → Prop) : Prop :=
  ∃ row grant, session.db.assignments.find? assignmentId = some row ∧ row.workerId = workerId ∧
    lastGrant assignmentId session.replies = some grant ∧ presented grant

/-- Credentials that match the recorded hash of an assignment are those of the
token granted last. -/
theorem matching_token (platform : Platform)
    (injective : Function.Injective (Lease.leaseTokenHash platform))
    (last : Option Scheduler.LeaseGrant)
    (leaseToken : String)
    (matched : Lease.TokenMatches platform
      (last.map (fun grant => Lease.leaseTokenHash platform grant.leaseToken)) (some leaseToken)) :
    ∃ grant, last = some grant ∧ leaseToken = grant.leaseToken := by
  obtain ⟨-, -, same⟩ := matched
  obtain ⟨grant, rfl, hashes⟩ := Option.map_eq_some_iff.mp same.symm
  exact ⟨grant, rfl, injective hashes.symm⟩

/-- The same of a submission. -/
theorem matching_submission (platform : Platform)
    (injective : Function.Injective (Lease.leaseTokenHash platform))
    (last : Option Scheduler.LeaseGrant)
    (submission : Scheduler.Submission)
    (authorised : submission.Authorised platform
      (last.map (fun grant => Lease.leaseTokenHash platform grant.leaseToken))) :
    ∃ grant, last = some grant ∧ Presents platform submission grant := by
  unfold Scheduler.Submission.Authorised at authorised
  unfold Presents
  cases brought : submission.leaseTokenHash with
  | some provided =>
    simp only [brought, ne_eq, reduceCtorEq, not_false_eq_true, if_true] at authorised
    obtain ⟨-, -, same⟩ := authorised
    obtain ⟨grant, rfl, hashes⟩ := Option.map_eq_some_iff.mp same.symm
    exact ⟨grant, rfl, hashes.symm⟩
  | none =>
    simp only [brought, ne_eq, not_true_eq_false, if_false] at authorised
    cases presented : submission.leaseToken with
    | none =>
      rw [presented] at authorised
      cases authorised.2.1
    | some leaseToken =>
      rw [presented] at authorised
      obtain ⟨grant, same, token⟩ := matching_token platform injective last leaseToken authorised
      exact ⟨grant, same, congrArg some token⟩

/-- A call that returns when it runs alone made a plan from the database it found. -/
theorem returned_planned (platform : Platform) (op : SchedulerOp) (db : Db)
    (wellFormed : WellFormed db) (returned : (Scheduler.runAlone platform op db).1.isOk = true) :
    ∃ plan, SchedulerOp.Planned platform [db, db, db] op plan := by
  rcases Scheduler.step_cases platform op db wellFormed with
    ⟨error, raised, -⟩ | ⟨reply, plan, -, planned, -⟩
  · rw [raised] at returned
    cases returned
  · exact ⟨plan, op.plan_some platform _ plan planned⟩

/-- After any calls that ran one at a time, progressing an assignment and
submitting a result for it take its own worker, with the token granted last for
it or the hash of that token. An assignment that was never accepted is still
created, or rejected. -/
theorem lease_authority (platform : Platform)
    (injective : Function.Injective (Lease.leaseTokenHash platform)) (initial : Db)
    (fresh : Fresh initial) (ops : List SchedulerOp) :
    let session := Scheduler.session platform initial ops
    (∀ draws assignmentId workerId leaseToken expectedLeaseVersion leaseDurationMs,
      (Scheduler.runAlone platform (.progressAssignment draws assignmentId workerId leaseToken
        expectedLeaseVersion leaseDurationMs) session.db).1.isOk = true →
      HeldBy session assignmentId workerId (fun grant => leaseToken = grant.leaseToken)) ∧
    (∀ draws submission,
      (Scheduler.runAlone platform (.submitResult draws submission) session.db).1.isOk = true →
      HeldBy session submission.assignmentId submission.workerId (Presents platform submission)) ∧
    ∀ assignmentId row, Leases.grants assignmentId session.replies = [] →
      session.db.assignments.find? assignmentId = some row →
      row.status = .created ∨ row.status = .rejected := by
  intro session
  refine ⟨?_, ?_, ?_⟩
  · intro draws assignmentId workerId leaseToken expectedLeaseVersion leaseDurationMs returned
    obtain ⟨wellFormed, recorded⟩ := session_recorded platform initial fresh ops assignmentId
    obtain ⟨plan, planned⟩ := returned_planned platform _ _ wellFormed returned
    cases planned with
    | progress _ _ _ _ _ _ read row expiresAt looked own matched expiry =>
      have same_db : read = session.db := by simpa using looked
      subst same_db
      obtain ⟨found, worker⟩ := (Scheduler.assignmentForWorker_ok_iff _ _ _ _).mp own
      rw [recorded.hash row found] at matched
      obtain ⟨grant, last, token⟩ := matching_token platform injective _ leaseToken matched
      exact ⟨row, grant, found, worker, last, token⟩
  · intro draws submission returned
    obtain ⟨wellFormed, recorded⟩ :=
      session_recorded platform initial fresh ops submission.assignmentId
    obtain ⟨plan, planned⟩ := returned_planned platform _ _ wellFormed returned
    cases planned with
    | submit _ _ read attempted looked row attempt envelope saw admitted =>
      obtain ⟨rfl, -, -⟩ : session.db = read ∧ session.db = attempted ∧ session.db = looked := by
        simpa using saw
      obtain ⟨found, worker⟩ := (Scheduler.assignmentForWorker_ok_iff _ _ _ _).mp admitted.found
      have authorised := admitted.authorised
      rw [recorded.hash row found] at authorised
      obtain ⟨grant, last, presents⟩ :=
        matching_submission platform injective _ submission authorised
      exact ⟨row, grant, found, worker, last, presents⟩
  · intro assignmentId row ungranted found
    obtain ⟨-, recorded⟩ := session_recorded platform initial fresh ops assignmentId
    exact recorded.status row found (by rw [lastGrant, ungranted]; rfl)

/-- A platform with the digest of the token that the calls below are granted; it
marks every other text, so that no two texts share a digest. -/
def tokenPlatform : Platform where
  sha256 text :=
    if text = "tokenbank.assignment.lease.v1\x00tbk_l_AAAAAAAAAAAAAAAAAAAAAAAAAAAAAA02" then
      "fc19df69aa30f1f628907eba653222bbc162f360cea7d52b68707ad6210339ab"
    else "text:" ++ text
  modelValidate _ := none

/-- Tokens do not share hashes there. -/
theorem tokenPlatform_injective : Function.Injective (Lease.leaseTokenHash tokenPlatform) := by
  have marked (text : String) : "text:" ++ text ≠
      "fc19df69aa30f1f628907eba653222bbc162f360cea7d52b68707ad6210339ab" := by
    intro same
    have heads := congrArg (fun digest => digest.toList.head?) same
    simp at heads
  intro left right same
  simp only [Lease.leaseTokenHash, tokenPlatform] at same
  apply (String.append_right_inj "tokenbank.assignment.lease.v1\x00").mp
  split at same
  · rename_i isLeft
    split at same
    · rename_i isRight
      exact isLeft.trans isRight.symm
    · exact absurd same.symm (marked _)
  · split at same
    · exact absurd same (marked _)
    · exact (String.append_right_inj "text:").mp same

/-- The session in which the worker accepted its assignment. -/
def accepted : Scheduler.Session :=
  Scheduler.session tokenPlatform Scenario.db
    [Scenario.createAttempt 0, Scenario.assignNextWork 1, Scenario.accept 2 1 0]

/-- A submission of the worker's envelope from its spool, with the hash of the
token it was granted. -/
def spooled : Scheduler.Submission where
  assignmentId := Scenario.assignmentId 1
  workerId := "wrk_1"
  leaseTokenHash := some "fc19df69aa30f1f628907eba653222bbc162f360cea7d52b68707ad6210339ab"
  output := [("reachable", .bool true)]
  resultEnvelope := .model (Scenario.envelope "res_a" 0 1 .succeeded)

/-- The worker progresses its assignment with the token it was granted, or submits
its envelope with the hash of that token. -/
theorem lease_authority_accepted :
    HeldBy accepted (Scenario.assignmentId 1) "wrk_1"
        (fun grant => Lease.newLeaseToken (Scenario.draws 2) = grant.leaseToken) ∧
      HeldBy accepted (Scenario.assignmentId 1) "wrk_1" (Presents tokenPlatform spooled) := by
  obtain ⟨progressed, submitted, -⟩ := lease_authority tokenPlatform tokenPlatform_injective
    Scenario.db Scenario.db_fresh
    [Scenario.createAttempt 0, Scenario.assignNextWork 1, Scenario.accept 2 1 0]
  exact ⟨progressed (Scenario.draws 3) _ _ _ 1 Lease.defaultLeaseDurationMs (by decide +kernel),
    submitted (Scenario.draws 3) spooled (by decide +kernel)⟩

end Authority

end TokenBank
