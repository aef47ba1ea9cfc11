import TokenBank.Core.Calendar
import TokenBank.Guarantees.Sweeping
import TokenBank.Store.Newest

/-!
# The order of stored times

The text of an instant has no fraction when the instant is a whole second, and such a text is
greater than that of every other instant of its second. Two instants clash if they are of one
second and one of them only is a whole second. Texts are ordered as the instants are exactly for
instants that do not clash. So a sweep expires the leases that are over exactly if the end of no
lease clashes with the time of the sweep, and a query for the newest row finds a latest one exactly
if no two rows of the last second clash.
-/

namespace TokenBank

/-- The instants are of one second, and exactly one of them is a whole second. -/
def Instant.Clash (instant other : Instant) : Prop :=
  instant.second = other.second ∧ (instant.fraction = 0 ↔ other.fraction ≠ 0)
  deriving Decidable

/-- An instant is its second and its fraction. -/
theorem Instant.micros_eq (instant : Instant) :
    instant.micros = 1000000 * instant.second + instant.fraction :=
  (Nat.div_add_mod _ _).symm

namespace Timestamps

open Clock (utcText)

/-! ## Texts -/

/-- The text of an instant is less than that of another exactly if the instant is earlier, unless
they clash; then exactly if it is later. -/
theorem utcText_order (instant other : Instant) : (utcText instant < utcText other ↔
    instant.micros < other.micros) ↔ ¬instant.Clash other := by
  have fits := instant.fraction_lt
  have other_fits := other.fraction_lt
  rw [Clock.utcText_lt_iff, instant.micros_eq, other.micros_eq, Instant.Clash]
  omega

/-- The text of an instant tells it from the others. -/
theorem utcText_injective (instant other : Instant) (same : utcText instant = utcText other) :
    instant.micros = other.micros := by
  have not_less : ¬utcText instant < utcText other := by
    rw [same]
    exact String.lt_irrefl _
  have not_greater : ¬utcText other < utcText instant := by
    rw [same]
    exact String.lt_irrefl _
  rw [Clock.utcText_lt_iff] at not_less not_greater
  rw [instant.micros_eq, other.micros_eq]
  omega

/-! ## Sweeps -/

/-- Every stored end of a lease is the text of an instant. -/
def Timed (db : Db) : Prop :=
  ∀ key row, db.assignments.find? key = some row →
    ∀ expiresAt ∈ row.leaseExpiresAt, ∃ expiry, expiresAt = utcText expiry

/-- The end of a lease that is granted is the text of an instant. -/
theorem leaseExpiry_timed (draws : Draws) (position : Nat) (milliseconds : Int)
    (expiresAt : String) (granted : Lease.leaseExpiry draws position milliseconds = .ok expiresAt) :
    ∃ expiry, expiresAt = utcText expiry := by
  unfold Lease.leaseExpiry at granted
  split at granted
  · rename_i instant later
    exact ⟨instant, (Except.ok.inj granted).symm⟩
  · cases granted

/-- Performing a plan keeps the ends of leases texts of instants. -/
theorem Timed.performed {platform : Platform} {store after : Db} {op : SchedulerOp}
    {seen : List Db} {plan : Plan} {reply : Reply} (timed : Timed store)
    (planned : op.plan platform seen = some plan)
    (performed : Performed platform store plan reply after) : Timed after := by
  intro key row found expiresAt ends
  rcases performed.assignment_origin key row found with ⟨earlier, stored, rfl⟩ | ⟨-, filed⟩
  · have before := timed key earlier stored
    cases SchedulerOp.plan_some platform op seen plan planned with
    | nothing | createAttempt | scheduleRetry | scheduleFallback | createAssignment
    | assignNextWork => exact before expiresAt ends
    | accept draws assignmentId workerId expectedLeaseVersion leaseDurationMs read assignment
        granted looked own created expiry =>
      simp only [Plan.assignmentAfter] at ends
      split at ends
      · exact leaseExpiry_timed _ _ _ expiresAt (expiry.trans (congrArg _ (by
          simpa [Lease.LeaseUpdate.apply, Scheduler.acceptUpdate] using ends)))
      · exact before expiresAt ends
    | reject draws assignmentId workerId read assignment looked own =>
      simp only [Plan.assignmentAfter] at ends
      split at ends <;> exact before expiresAt ends
    | progress draws assignmentId workerId leaseToken expectedLeaseVersion leaseDurationMs read
        assignment granted looked own matched expiry =>
      simp only [Plan.assignmentAfter] at ends
      split at ends
      · exact leaseExpiry_timed _ _ _ expiresAt (expiry.trans (congrArg _ (by
          simpa [Lease.LeaseUpdate.apply, Scheduler.progressUpdate] using ends)))
      · exact before expiresAt ends
    | submit draws submission read attempted looked assignment attempt envelope saw admitted =>
      simp only [Plan.assignmentAfter] at ends
      split at ends
      · split at ends <;> exact before expiresAt ends
      · exact before expiresAt ends
    | sweep draws read looked =>
      rw [Plan.assignmentAfter, Scheduler.expiredRow_keeps AssignmentRow.leaseExpiresAt
        (fun _ _ => rfl)] at ends
      exact before expiresAt ends
  · cases plan with
    | insertAssignment draws request workUnitId =>
      simp only [Plan.newAssignment, Option.ite_none_right_eq_some, Option.some.injEq] at filed
      obtain ⟨-, rfl⟩ := filed
      cases ends
    | _ => cases filed

/-- The ends of leases are texts of instants in every reachable database. -/
theorem Timed.reachable {platform : Platform} {db : Db} (reachable : Reachable platform db) :
    Timed db := by
  obtain ⟨initial, moves, fresh, rfl⟩ := reachable
  refine Scheduler.invariant_run platform (fun db _ => Timed db) initial fresh.wellFormed ?_ ?_ moves
  · intro key row found
    simp [Store.Table.find?_of_entries_nil _ fresh.assignments] at found
  · intro op seen store plan reply after replies _ _ planned performed timed
    exact timed.performed planned performed

/-- The assignment is leased, and its lease ends earlier than an instant. -/
def Ended (now : Instant) (row : AssignmentRow) : Prop :=
  row.status.leased = true ∧
    ∃ expiry, row.leaseExpiresAt = some (utcText expiry) ∧ expiry.micros < now.micros

/-- The assignments whose leases ended before an instant are expired, and the others are as they
were. -/
def ExpiresEnded (now : Instant) (before after : Db) : Prop :=
  ∀ key row, before.assignments.find? key = some row →
    ∃ swept, after.assignments.find? key = some swept ∧
      (Ended now row → swept.status = .expired) ∧ (¬Ended now row → swept = row)

/-- No lease ends at an instant that clashes with another. -/
def NoClash (now : Instant) (db : Db) : Prop :=
  ∀ key row expiry, db.assignments.find? key = some row → row.status.leased = true →
    row.leaseExpiresAt = some (utcText expiry) → ¬expiry.Clash now

/-- A sweep lists an assignment exactly if it is leased and the text of its end is less than that
of the time. -/
theorem listed_iff (now : String) (db : Db) (key : String) (row : AssignmentRow)
    (found : db.assignments.find? key = some row) :
    key ∈ (Scheduler.expiredLeases now db).map Prod.fst ↔
      row.status.leased = true ∧ ∃ expiresAt ∈ row.leaseExpiresAt, expiresAt < now := by
  constructor
  · rintro listed
    obtain ⟨entry, member, rfl⟩ := List.mem_map.mp listed
    obtain ⟨stored, expired⟩ := Sweeping.over_of_listed now db entry member
    have same_row := Option.some.inj (found.symm.trans stored)
    subst same_row
    exact expired
  · rintro ⟨leased, expiresAt, ends, less⟩
    refine List.mem_map.mpr ⟨(key, row), List.mem_filter.mpr
      ⟨(Store.Table.mem_entries_iff _ _ _).mpr found, ?_⟩, rfl⟩
    have selected : row.status = .accepted ∨ row.status = .running := by
      cases status : row.status <;> simp_all [AssignmentStatus.leased]
    simp only [Option.mem_def.mp ends, less, decide_true, Bool.and_true, Bool.or_eq_true,
      decide_eq_true_eq]
    exact selected

/-- An assignment that a sweep does not list stays as it is. -/
theorem expiredRow_unlisted (draws : Draws) (key : String) (position : Nat)
    (rows : List (String × AssignmentRow)) (row : AssignmentRow)
    (unlisted : key ∉ rows.map Prod.fst) : Scheduler.expiredRow draws key position rows row = row := by
  induction rows generalizing position with
  | nil => rfl
  | cons head rest inductionHypothesis =>
    rw [List.map_cons, List.mem_cons, not_or] at unlisted
    rw [Scheduler.expiredRow, if_neg unlisted.1]
    exact inductionHypothesis (position + 1) unlisted.2

/-- A lease that ends at an instant has ended before another exactly if the instant is earlier. -/
theorem ended_iff (now expiry : Instant) (row : AssignmentRow)
    (ends : row.leaseExpiresAt = some (utcText expiry)) :
    Ended now row ↔ row.status.leased = true ∧ expiry.micros < now.micros := by
  constructor
  · rintro ⟨leased, other, ends_other, earlier⟩
    rw [utcText_injective _ _ (Option.some.inj (ends.symm.trans ends_other))]
    exact ⟨leased, earlier⟩
  · rintro ⟨leased, earlier⟩
    exact ⟨leased, expiry, ends, earlier⟩

/-- A sweep lists an assignment whose lease ends at an instant exactly if the text of the instant is
less than that of the time. -/
theorem listed_expiry_iff (now : String) (db : Db) (key : String) (row : AssignmentRow)
    (expiry : Instant) (found : db.assignments.find? key = some row)
    (ends : row.leaseExpiresAt = some (utcText expiry)) :
    key ∈ (Scheduler.expiredLeases now db).map Prod.fst ↔
      row.status.leased = true ∧ utcText expiry < now := by
  rw [listed_iff now db key row found, ends]
  simp

/-- Where no lease ends at an instant that clashes with the time, a sweep lists an assignment exactly
if its lease ended earlier. -/
theorem listed_iff_ended (now : Instant) (db : Db) (timed : Timed db) (apart : NoClash now db)
    (key : String) (row : AssignmentRow) (found : db.assignments.find? key = some row) :
    key ∈ (Scheduler.expiredLeases (utcText now) db).map Prod.fst ↔ Ended now row := by
  cases ends : row.leaseExpiresAt with
  | none => simp [listed_iff _ db key row found, Ended, ends]
  | some expiresAt =>
    obtain ⟨expiry, rfl⟩ := timed key row found expiresAt ends
    rw [listed_expiry_iff _ db key row expiry found ends, ended_iff now expiry row ends]
    exact and_congr_right fun leased =>
      (utcText_order expiry now).mpr (apart key row expiry found leased ends)

/-- A sweep expires the assignments whose leases ended earlier, and no others, exactly if no lease
ends at an instant that clashes with the time of the sweep. -/
theorem expiresEnded_iff (platform : Platform) (db after : Db) (draws : Draws) (count : Nat)
    (reachable : Reachable platform db)
    (swept : Scheduler.runAlone platform (.sweepExpiredLeases draws) db =
      (.ok (.swept count), after)) :
    ExpiresEnded (draws.clock 0) db after ↔ NoClash (draws.clock 0) db := by
  obtain ⟨plan, planned, performed⟩ :=
    (Scheduler.runAlone_ok_iff platform _ db after _ reachable.wellFormed).mp swept
  cases planned
  constructor
  · intro expires key row expiry found leased ends
    obtain ⟨expired, there, if_ended, otherwise⟩ := expires key row found
    rw [performed.assignment_kept key row found, Option.some.injEq] at there
    subst there
    have status := Scheduler.expiredRow_status draws key 0
      (Scheduler.expiredLeases (draws.utcText 0) db) row
    rw [Plan.assignmentAfter, status] at if_ended
    rw [Plan.assignmentAfter] at otherwise
    have not_expired : row.status ≠ .expired := by
      intro expired
      rw [expired] at leased
      cases leased
    rw [← utcText_order]
    constructor
    · intro less
      have listed := (listed_expiry_iff (draws.utcText 0) db key row expiry found ends).mpr
        ⟨leased, less⟩
      by_contra later
      have kept := otherwise (fun ended => later ((ended_iff _ expiry row ends).mp ended).2)
      rw [kept, if_pos listed] at status
      exact not_expired status
    · intro earlier
      have expired := if_ended ((ended_iff _ expiry row ends).mpr ⟨leased, earlier⟩)
      by_contra not_less
      have unlisted : key ∉ (Scheduler.expiredLeases (draws.utcText 0) db).map Prod.fst :=
        fun listed => not_less ((listed_expiry_iff _ db key row expiry found ends).mp listed).2
      rw [if_neg unlisted] at expired
      exact not_expired expired
  · intro apart key row found
    have listed := listed_iff_ended (draws.clock 0) db (Timed.reachable reachable) apart key row
      found
    refine ⟨_, performed.assignment_kept key row found, fun ended => ?_, fun lasts => ?_⟩
    · rw [Plan.assignmentAfter, Scheduler.expiredRow_status]
      exact if_pos (listed.mpr ended)
    · exact expiredRow_unlisted draws key 0 _ row (fun member => lasts (listed.mp member))

/-! ## Newest rows -/

/-- The newest row by stored texts is a latest one exactly if rows clash only in seconds before that
of another row. -/
theorem newest_latest_iff {Row : Type} (rows : List Row) (createdAt : Row → String)
    (instant : Row → Instant) (best : Row)
    (stored : ∀ row ∈ rows, createdAt row = utcText (instant row))
    (found : Store.newest createdAt rows = some best) :
    (∀ row ∈ rows, (instant row).micros ≤ (instant best).micros) ↔
      ∀ row ∈ rows, ∀ other ∈ rows, (instant row).Clash (instant other) →
        ∃ later ∈ rows, (instant row).second < (instant later).second := by
  obtain ⟨member, greatest⟩ := Store.newest_spec createdAt rows best found
  have not_less (row : Row) (listed : row ∈ rows) :
      ¬utcText (instant best) < utcText (instant row) := by
    rw [← stored best member, ← stored row listed]
    exact String.not_lt.mpr (greatest row listed)
  constructor
  · intro latest row listed other listed_other clash
    by_contra last
    have best_last : (instant best).second ≤ (instant row).second :=
      Nat.le_of_not_lt fun after => last ⟨best, member, after⟩
    have row_before := latest row listed
    have other_before := latest other listed_other
    have row_not := not_less row listed
    have other_not := not_less other listed_other
    rw [Clock.utcText_lt_iff] at row_not other_not
    simp only [Instant.micros_eq] at row_before other_before
    have fits := (instant row).fraction_lt
    have fits_other := (instant other).fraction_lt
    have fits_best := (instant best).fraction_lt
    unfold Instant.Clash at clash
    omega
  · intro apart row listed
    have row_not := not_less row listed
    by_cases clash : (instant best).Clash (instant row)
    · obtain ⟨later, listed_later, after⟩ := apart best member row listed clash
      have later_not := not_less later listed_later
      rw [Clock.utcText_lt_iff] at later_not
      omega
    · rw [(utcText_order _ _).mpr clash] at row_not
      omega

/-! ## Stored times -/

/-- Stored times are ordered as instants are, exactly as far as they do not clash: the texts of two
instants are in their order exactly if the instants do not clash, a sweep of a reachable database
expires exactly what ended before it exactly if no lease ends at an instant that clashes with its
time, and the newest of some rows is a latest one exactly if rows clash only in seconds before that
of another row. -/
theorem timestamps_ordered_iff (platform : Platform) (instant other : Instant) :
    ((utcText instant < utcText other ↔ instant.micros < other.micros) ↔ ¬instant.Clash other) ∧
    (∀ db after draws count, Reachable platform db →
      Scheduler.runAlone platform (.sweepExpiredLeases draws) db = (.ok (.swept count), after) →
      (ExpiresEnded (draws.clock 0) db after ↔ NoClash (draws.clock 0) db)) ∧
    ∀ {Row : Type} (rows : List Row) (createdAt : Row → String) (instant : Row → Instant) best,
      (∀ row ∈ rows, createdAt row = utcText (instant row)) →
      Store.newest createdAt rows = some best →
      ((∀ row ∈ rows, (instant row).micros ≤ (instant best).micros) ↔
        ∀ row ∈ rows, ∀ other ∈ rows, (instant row).Clash (instant other) →
          ∃ later ∈ rows, (instant row).second < (instant later).second) :=
  ⟨utcText_order instant other, expiresEnded_iff platform, newest_latest_iff⟩

/-- An instant of the small runs, some seconds and half a second after they start. -/
def halfPast (seconds : Nat) : Instant :=
  ⟨((739616 * 86400 + seconds) * 1000000 + 500000) % (representableDays * microsPerDay),
    Nat.mod_lt _ (by decide)⟩

/-- A database with a lease that ends 150 seconds after the small runs start. -/
def leasedDb : Db :=
  Store.run (Scheduler.step Scenario.platform) Scenario.db
    [Scenario.createAttempt 0, Scenario.assignNextWork 1, Scenario.accept 2 1 0]

/-- A sweep some seconds and half a second after the small runs start. -/
def sweepAt (seconds : Nat) : SchedulerOp :=
  .sweepExpiredLeases { Scenario.draws 3 with clock := fun _ => halfPast seconds }

/-- The database with a lease is reachable. -/
theorem leasedDb_reachable : Reachable Scenario.platform leasedDb :=
  (Reachable.fresh Scenario.db_fresh).run _

/-- The instant at which the lease of the database ends. -/
def leaseEnd : Instant :=
  ⟨(739616 * 86400 + 150) * 1000000 % (representableDays * microsPerDay), Nat.mod_lt _ (by decide)⟩

/-- No lease of the database ends in the second after the one in which its only one ends. -/
theorem leasedDb_noClash : NoClash (halfPast 151) leasedDb := by
  intro key row expiry found leased ends clash
  have only : ∀ entry ∈ leasedDb.assignments.entries,
      entry.2.leaseExpiresAt = some (utcText leaseEnd) := by decide +kernel
  have same := utcText_injective expiry leaseEnd (Option.some.inj (ends.symm.trans
    (only (key, row) ((Store.Table.mem_entries_iff _ _ _).mpr found))))
  have same_second : expiry.second = leaseEnd.second := congrArg (· / 1000000) same
  have apart : leaseEnd.second ≠ (halfPast 151).second := by decide +kernel
  exact apart (same_second.symm.trans clash.1)

/-- A sweep a second and a half after the lease ended expires it. -/
theorem timestamps_ordered_swept :
    (Scheduler.runAlone Scenario.platform (sweepAt 151) leasedDb).1 = .ok (.swept 1) ∧
      ExpiresEnded (halfPast 151) leasedDb
        (Scheduler.runAlone Scenario.platform (sweepAt 151) leasedDb).2 := by
  have swept : (Scheduler.runAlone Scenario.platform (sweepAt 151) leasedDb).1 = .ok (.swept 1) := by
    decide +kernel
  exact ⟨swept, ((timestamps_ordered_iff Scenario.platform leaseEnd (halfPast 151)).2.1 leasedDb _ _
    1 leasedDb_reachable (Prod.ext swept rfl)).mpr leasedDb_noClash⟩

/-- A sweep half a second after the lease ended, which is stored as a whole second, finds no lease
that is over. -/
theorem ended_unswept :
    (⟨0, by decide⟩ : Instant).micros < (⟨500000, by decide⟩ : Instant).micros ∧
      ¬utcText ⟨0, by decide⟩ < utcText ⟨500000, by decide⟩ ∧
      ((leasedDb.assignments.find? (Scenario.assignmentId 1)).map AssignmentRow.leaseExpiresAt =
          some (some (utcText leaseEnd)) ∧
        leaseEnd.micros + 500000 = (halfPast 150).micros ∧
        (Scheduler.runAlone Scenario.platform (sweepAt 150) leasedDb).1 = .ok (.swept 0)) := by
  decide +kernel

end Timestamps

end TokenBank
