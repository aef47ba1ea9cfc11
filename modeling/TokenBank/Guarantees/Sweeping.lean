import TokenBank.Guarantees.Agreement

/-!
# What a sweep overwrites

A sweep selects the leases that have ended and expires them later, without looking
again. Calls on other connections may write in between. Whether the sweep then
overwrites a live or a finished assignment depends on those writes alone: it finds
every selected assignment leased and over exactly as long as none of them ends a
selected assignment or gives it a lease that is not over.

The calls in progress are part of the state here, since what endangers an
assignment is a sweep that has selected it and has not expired it yet.
-/

namespace TokenBank

namespace Sweeping

/-- The assignment is leased, and its lease ended before a time. -/
def Over (now : String) (row : AssignmentRow) : Prop :=
  row.status.leased = true ∧ ∃ expiresAt ∈ row.leaseExpiresAt, expiresAt < now
  deriving Decidable

/-- The rows that the updates of a sweep find, each immediately before its own
update. -/
def foundBy (draws : Draws) : Nat → List (String × AssignmentRow) → Db →
    List (Option AssignmentRow)
  | _, [], _ => []
  | position, (assignmentId, _) :: rest, db =>
    db.assignments.find? assignmentId :: foundBy draws (position + 1) rest
      (Scheduler.setAssignment assignmentId
        (Scheduler.expireRow (draws.utcText (2 * position + 1))) db)

/-- A call that writes to a database is no sweep, or it expires only assignments
that are leased and over at its time. -/
def ExpiresOver : SchedulerOp → List Db → Db → Prop
  | .sweepExpiredLeases draws, seen, store =>
    ∀ read ∈ seen,
      ∀ found ∈ foundBy draws 0 (Scheduler.expiredLeases (draws.utcText 0) read) store,
        ∃ row ∈ found, Over (draws.utcText 0) row
  | _, _, _ => True

instance : (op : SchedulerOp) → (seen : List Db) → (store : Db) →
    Decidable (ExpiresOver op seen store)
  | .sweepExpiredLeases draws, seen, store => inferInstanceAs (Decidable (∀ read ∈ seen,
      ∀ found ∈ foundBy draws 0 (Scheduler.expiredLeases (draws.utcText 0) read) store,
        ∃ row ∈ found, Over (draws.utcText 0) row))
  | .createAttempt .., _, _ => .isTrue trivial
  | .createAssignment .., _, _ => .isTrue trivial
  | .assignNextWork .., _, _ => .isTrue trivial
  | .acceptAssignment .., _, _ => .isTrue trivial
  | .rejectAssignment .., _, _ => .isTrue trivial
  | .progressAssignment .., _, _ => .isTrue trivial
  | .submitResult .., _, _ => .isTrue trivial
  | .scheduleRetry .., _, _ => .isTrue trivial
  | .scheduleFallback .., _, _ => .isTrue trivial

/-- What a call has selected for expiry and not expired yet: the time of the
selection and the assignment. -/
def selected (call : Store.Call SchedulerOp Db Raised Reply) : List (String × String) :=
  match call.op with
  | .sweepExpiredLeases draws =>
    if call.rest.finished then []
    else call.seen.flatMap (fun read =>
      (Scheduler.expiredLeases (draws.utcText 0) read).map (fun entry =>
        (draws.utcText 0, entry.1)))
  | _ => []

/-- The plan neither ends an assignment nor gives it a lease that is not over at a
time. -/
def spares (now key : String) : Plan → Bool
  | .accept _ assignmentId _ _ expiresAt _ => key ≠ assignmentId || expiresAt < now
  | .progress _ assignmentId _ _ expiresAt _ => key ≠ assignmentId || expiresAt < now
  | .reject _ assignmentId _ _ => key ≠ assignmentId
  | .submit _ assignmentId _ _ _ => key ≠ assignmentId
  | .sweep _ rows => key ∉ rows.map Prod.fst
  | _ => true

/-- A turn in which a call returns spares the assignments that other calls have
selected. -/
def SparesSelected (platform : Platform) (pool : SchedulerPool) : SchedulerMove → Prop
  | .start _ => True
  | .turn index =>
    ∀ call ∈ pool.calls[index]?, (call.next pool.store).reply.isSome = true →
      ∀ plan ∈ call.op.plan platform call.seen, ∀ other ∈ pool.calls.eraseIdx index,
        ∀ chosen ∈ selected other, spares chosen.1 chosen.2 plan = true

instance (platform : Platform) (pool : SchedulerPool) :
    (move : SchedulerMove) → Decidable (SparesSelected platform pool move)
  | .start _ => .isTrue trivial
  | .turn index => inferInstanceAs (Decidable (∀ call ∈ pool.calls[index]?, _))

/-- Every assignment selected by a sweep in progress is leased and over. -/
def Ready (pool : SchedulerPool) : Prop :=
  ∀ call ∈ pool.calls, ∀ chosen ∈ selected call,
    ∃ row, pool.store.assignments.find? chosen.2 = some row ∧ Over chosen.1 row

/-- A sweep selects assignments that are leased and over. -/
theorem over_of_listed (now : String) (db : Db) (entry : String × AssignmentRow)
    (listed : entry ∈ Scheduler.expiredLeases now db) :
    db.assignments.find? entry.1 = some entry.2 ∧ Over now entry.2 := by
  obtain ⟨inTable, chosen⟩ := List.mem_filter.mp listed
  refine ⟨(Store.Table.mem_entries_iff _ _ _).mp inTable, ?_⟩
  simp only [Bool.and_eq_true, Bool.or_eq_true, decide_eq_true_eq] at chosen
  obtain ⟨leased, ended⟩ := chosen
  constructor
  · rcases leased with accepted | running <;> simp [AssignmentStatus.leased, *]
  · cases expiry : entry.2.leaseExpiresAt with
    | none => simp [expiry] at ended
    | some expiresAt => exact ⟨expiresAt, rfl, by simpa [expiry] using ended⟩

/-- A sweep lists no assignment twice. -/
theorem expiredLeases_nodup (now : String) (db : Db) :
    ((Scheduler.expiredLeases now db).map Prod.fst).Nodup :=
  (List.filter_sublist.map Prod.fst).nodup db.assignments.distinct

/-- The updates of a sweep find assignments that are leased and over if all of them
were so before the first update: no update touches the assignment of a later one. -/
theorem foundBy_over (draws : Draws) (now : String) (position : Nat)
    (rows : List (String × AssignmentRow)) (db : Db) (distinct : (rows.map Prod.fst).Nodup)
    (ready : ∀ entry ∈ rows, ∃ row, db.assignments.find? entry.1 = some row ∧ Over now row) :
    ∀ found ∈ foundBy draws position rows db, ∃ row ∈ found, Over now row := by
  induction rows generalizing position db with
  | nil => simp [foundBy]
  | cons head rest inductionHypothesis =>
    rw [List.map_cons, List.nodup_cons] at distinct
    have later : ∀ entry ∈ rest, ∃ row,
        (Scheduler.setAssignment head.1 (Scheduler.expireRow (draws.utcText (2 * position + 1)))
          db).assignments.find? entry.1 = some row ∧ Over now row := by
      intro entry member
      obtain ⟨row, found, expired⟩ := ready entry (List.mem_cons_of_mem head member)
      have other : entry.1 ≠ head.1 := by
        intro same
        exact distinct.1 (same ▸ List.mem_map_of_mem member)
      exact ⟨row, by rw [Scheduler.setAssignment, Store.Table.find?_modify, if_neg other, found],
        expired⟩
    intro found member
    rcases List.mem_cons.mp member with first | afterwards
    · obtain ⟨row, here, expired⟩ := ready head List.mem_cons_self
      exact ⟨row, first ▸ here, expired⟩
    · exact inductionHypothesis (position + 1) _ distinct.2 later found afterwards

/-- A plan that spares an assignment leaves it leased and over. -/
theorem over_of_spared (platform : Platform) (plan : Plan) (now key : String)
    (row : AssignmentRow) (expired : Over now row) (spared : spares now key plan = true) :
    Over now (plan.assignmentAfter platform key row) := by
  have leases (expiresAt : String) (update : Lease.LeaseUpdate)
      (expiry : update.leaseExpiresAt = some expiresAt) (leased : update.status.leased = true)
      (ended : expiresAt < now) : Over now (update.apply (row.leaseVersion + 1) row) :=
    ⟨leased, expiresAt, expiry, ended⟩
  cases plan with
  | nothing | insertAttempt | insertAssignment => exact expired
  | accept draws assignmentId workerId expectedLeaseVersion expiresAt assignment =>
    simp only [Plan.assignmentAfter]
    split
    · rename_i same
      exact leases expiresAt (Scheduler.acceptUpdate platform draws expiresAt) rfl rfl
        (by simpa [spares, same] using spared)
    · exact expired
  | progress draws assignmentId workerId expectedLeaseVersion expiresAt assignment =>
    simp only [Plan.assignmentAfter]
    split
    · rename_i same
      exact leases expiresAt (Scheduler.progressUpdate draws expiresAt) rfl rfl
        (by simpa [spares, same] using spared)
    · exact expired
  | reject | submit =>
    have other := of_decide_eq_true spared
    simp only [Plan.assignmentAfter, if_neg other]
    exact expired
  | sweep draws rows =>
    have unlisted : key ∉ rows.map Prod.fst := of_decide_eq_true spared
    have status := Scheduler.expiredRow_status draws key 0 rows row
    have expiry := Scheduler.expiredRow_keeps AssignmentRow.leaseExpiresAt (fun _ _ => rfl) draws
      key 0 rows row
    rw [if_neg unlisted] at status
    simp only [Over, Plan.assignmentAfter, status, expiry]
    exact expired

/-- A call that has selected an assignment selected it in one of the databases it
saw. -/
theorem selected_iff (call : Store.Call SchedulerOp Db Raised Reply) (chosen : String × String) :
    chosen ∈ selected call ↔ ∃ draws, call.op = .sweepExpiredLeases draws ∧
      call.rest.finished = false ∧ ∃ read ∈ call.seen,
        ∃ entry ∈ Scheduler.expiredLeases (draws.utcText 0) read,
          chosen = (draws.utcText 0, entry.1) := by
  obtain ⟨op, rest, seen⟩ := call
  cases op with
  | sweepExpiredLeases draws =>
    cases finished : rest.finished <;>
      simp [selected, finished, eq_comm]
  | _ => simp [selected]

/-- One move that spares selected assignments leaves them leased and over.

A call that only looks adds what it selects now, which is leased and over now. A
call that ends has nothing selected any more, and what it wrote spares the others'
selections. -/
theorem ready_move (platform : Platform) (pool : SchedulerPool) (moved : SchedulerMove)
    (holds : (schedulerDiscipline platform).Holds pool) (ready : Ready pool)
    (spared : SparesSelected platform pool moved) : Ready (Scheduler.move platform pool moved) := by
  have taken := (schedulerDiscipline platform).move_taken pool holds moved
  change Ready (pool.move (schedulerDiscipline platform).program moved)
  generalize reached : pool.move (schedulerDiscipline platform).program moved = next at taken
  cases taken with
  | nothing => exact ready
  | started op =>
    intro call member chosen chooses
    rcases List.mem_append.mp member with old | new
    · exact ready call old chosen chooses
    · have same_call := List.mem_singleton.mp new
      subst same_call
      obtain ⟨draws, -, -, read, looked, -⟩ := (selected_iff _ _).mp chooses
      cases looked
  | looked index call rest here reads unfinished complies =>
    intro other member chosen chooses
    rcases List.mem_or_eq_of_mem_set member with old | same
    · exact ready other old chosen chooses
    · subst same
      obtain ⟨draws, sweeps, -, read, looked, entry, listed, same_choice⟩ :=
        (selected_iff _ _).mp chooses
      rcases List.mem_append.mp looked with earlier | now
      · apply ready call (List.mem_of_getElem? here) chosen
        have reading : call.rest.finished = false := by
          cases statement : call.rest <;> simp_all [Store.Client.reading, Store.Client.finished]
        exact (selected_iff _ _).mpr ⟨draws, sweeps, reading, read, earlier, entry, listed,
          same_choice⟩
      · have same_store := List.mem_singleton.mp now
        subst same_store
        rw [same_choice]
        exact ⟨entry.2, over_of_listed (draws.utcText 0) pool.store entry listed⟩
  | ended index call result after here unfinished quiet ending =>
    have ends := (schedulerDiscipline platform).next_of_ended pool index call _ here unfinished
      (congrArg Store.Pool.calls reached)
    intro other member chosen chooses
    obtain ⟨position, atPosition⟩ := List.mem_iff_getElem?.mp member
    by_cases self : position = index
    · subst self
      have bound : position < pool.calls.length := (List.getElem?_eq_some_iff.mp here).1
      have same_call : other = ⟨call.op, .done result, call.seenAfter pool.store⟩ := by
        simpa [bound, eq_comm] using atPosition
      subst same_call
      obtain ⟨draws, -, finished, -⟩ := (selected_iff _ _).mp chooses
      cases finished
    · have before : pool.calls[position]? = some other := by
        simpa [List.getElem?_set, Ne.symm self] using atPosition
      have others : other ∈ pool.calls.eraseIdx index :=
        List.mem_eraseIdx_iff_getElem?.mpr ⟨position, self, before⟩
      obtain ⟨row, found, expired⟩ := ready other (List.mem_of_getElem? before) chosen chooses
      cases result with
      | error error =>
        have unchanged := ending.1
        subst unchanged
        exact ⟨row, found, expired⟩
      | ok reply =>
        by_cases reads : call.rest.reading = true
        · exact ⟨row, quiet reads ▸ found, expired⟩
        · obtain ⟨plan, planned, performed⟩ := ending
          have seen : call.seenAfter pool.store = call.seen := by
            simp [Store.Call.seenAfter, reads]
          have spares_plan := spared call here (by simp [ends, Except.toOption]) plan
            (seen ▸ planned) other others chosen chooses
          exact ⟨_, performed.assignment_kept _ row found,
            over_of_spared platform plan _ _ row expired spares_plan⟩

/-- Where every selected assignment is leased and over, a sweep that writes expires
only such assignments. -/
theorem expiresOver_of_ready (pool : SchedulerPool) (moved : SchedulerMove) (ready : Ready pool) :
    pool.AtWrites ExpiresOver moved := by
  cases moved with
  | start op => trivial
  | turn index =>
    simp only [Store.Pool.AtWrites]
    split
    · trivial
    · rename_i call here
      by_cases finished : call.rest.finished = true
      · exact Or.inl finished
      · right
        right
        cases operation : call.op with
        | sweepExpiredLeases draws =>
          intro read looked
          apply foundBy_over _ _ _ _ _ (expiredLeases_nodup _ _)
          intro entry listed
          exact ready call (List.mem_of_getElem? here) (draws.utcText 0, entry.1)
            ((selected_iff _ _).mpr ⟨draws, operation, by simpa using finished, read, looked, entry,
              listed, rfl⟩)
        | _ => trivial

/-- In every interleaving of calls in which no returning call ends or prolongs an
assignment that a sweep has selected and not expired yet, every update of every
sweep finds, immediately before it, an assignment that is leased and over. -/
theorem expires_over_along (platform : Platform) (initial : Db) (wellFormed : WellFormed initial)
    (moves : List SchedulerMove)
    (spared : Store.Along (Scheduler.move platform) (SparesSelected platform)
      (Store.Pool.idle initial) moves) :
    Store.Along (Scheduler.move platform) (fun pool => pool.AtWrites ExpiresOver)
      (Store.Pool.idle initial) moves := by
  apply Store.along_imp (Scheduler.move platform)
    (fun pool => (schedulerDiscipline platform).Holds pool ∧ Ready pool)
    (SparesSelected platform) _ _ moves _ _ spared
  · exact ⟨(schedulerDiscipline platform).holds_idle initial wellFormed, by
      simp [Ready, Store.Pool.idle]⟩
  · intro pool moved together spares_selected
    obtain ⟨holds, ready⟩ := together
    have next_holds := (schedulerDiscipline platform).taken_holds pool _ moved holds
      ((schedulerDiscipline platform).move_taken pool holds moved)
    exact ⟨⟨next_holds, ready_move platform pool moved holds ready spares_selected⟩,
      expiresOver_of_ready pool moved ready⟩

/-- Two leased assignments, the second for ten minutes. -/
def leasing : List SchedulerOp :=
  [Scenario.createAttempt 0, Scenario.assignNextWork 1, Scenario.accept 2 1 0,
    Scenario.createAttempt 3, Scenario.assignNextWork 4,
    .acceptAssignment (Scenario.draws 5) (Scenario.assignmentId 4) "wrk_1" 0 600000]

/-- The second assignment progresses while a sweep has selected the first one. -/
theorem expires_over_along_apart :
    Store.Along (Scheduler.move Scenario.platform) (fun pool => pool.AtWrites ExpiresOver)
      (Store.Pool.idle Scenario.db) (Scenario.oneByOne leasing ++
        Scenario.overlapping 6 1 (Scenario.progress 7 4 5 1) (Scenario.sweep 6)) :=
  expires_over_along Scenario.platform Scenario.db Scenario.db_fresh.wellFormed _
    (by decide +kernel)

/-- A worker prolongs its lease after a sweep selected it and before the sweep
expires it. -/
theorem prolonged_then_expired :
    ¬ Store.Along (Scheduler.move Scenario.platform) (fun pool => pool.AtWrites ExpiresOver)
      (Store.Pool.idle Scenario.db) (Scenario.oneByOne (leasing.take 3) ++
        Scenario.overlapping 3 1 (Scenario.progress 7 1 2 1) (Scenario.sweep 6)) := by
  decide +kernel

end Sweeping

end TokenBank
