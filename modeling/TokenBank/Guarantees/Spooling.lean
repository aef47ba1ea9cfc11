import TokenBank.Guarantees.Redactions
import TokenBank.Store.Transactions
import TokenBank.Worker.Daemon

/-!
# Spooled results

Spooled results are submitted in the order of their files. The first one whose submission is
not accepted raises, and with it the round of the worker ends: the results behind it are not
submitted, and there is neither a heartbeat nor a poll. So a spool is replayed as it should
exactly if every result in it is accepted.
-/

namespace TokenBank

namespace WorkerDaemon

open ControlPlaneClient WorkerProgram

variable {σ : Type} (plane : ControlPlaneServer σ) (config : WorkerConfig)

/-! ## What the control plane makes of spooled results -/

/-- A submission is accepted. -/
def accepted (answer : Except WorkerRaised ControlPlaneResponse) : Bool :=
  (answered answer).toOption.isSome

/-- Whether the control plane accepts each of some results, when they are submitted to it one
after the other. -/
def verdicts : σ → List (String × CompletedSpoolEntry) → List Bool
  | _, [] => []
  | state, (_, entry) :: rest =>
    accepted (plane.respond state (spooledSubmission config entry)).1 ::
      verdicts (plane.respond state (spooledSubmission config entry)).2 rest

/-- The state of the control plane after some submissions. -/
def planeAfter : σ → List (String × CompletedSpoolEntry) → σ
  | state, [] => state
  | state, (_, entry) :: rest =>
    planeAfter (plane.respond state (spooledSubmission config entry)).2 rest

/-- What the log says about a submitted result. -/
def submittedLine (entry : CompletedSpoolEntry) : List Char :=
  WorkerLog.redactWorkerLog ("spooled result submitted: " ++ entry.assignmentId).toList ++ ['\n']

/-- The state of a worker after some results have been submitted and their files removed. -/
def delivered (state : WorkerState σ) (entries : List (String × CompletedSpoolEntry)) :
    WorkerState σ :=
  { state with
    plane := planeAfter plane config state.plane entries
    spool := (entries.map Prod.fst).foldl ResultSpool.remove state.spool
    log := state.log ++ entries.flatMap (fun named => submittedLine named.2)
    sent := state.sent ++ entries.map (fun named => spooledSubmission config named.2) }

/-- Writing to the log raises nothing. -/
theorem log_ok (message : String) (state : WorkerState σ) : log message state = .ok ()
    { state with
      log := state.log ++ WorkerLog.redactWorkerLog message.toList ++ ['\n'] } := by
  simp only [log, WorkerLog.write_redacted]
  rfl

/-- An accepted result is submitted, and its file is removed. -/
theorem replayEntries_accepted (path : String) (entry : CompletedSpoolEntry)
    (rest : List (String × CompletedSpoolEntry)) (submitted : Nat) (state : WorkerState σ)
    (given : accepted (plane.respond state.plane (spooledSubmission config entry)).1 = true) :
    replayEntries plane config ((path, entry) :: rest) submitted state =
      replayEntries plane config rest (submitted + 1)
        (delivered plane config state [(path, entry)]) := by
  rw [accepted] at given
  cases answer : answered (plane.respond state.plane (spooledSubmission config entry)).1 with
  | error error =>
    rw [answer] at given
    cases given
  | ok value =>
    have sent := send_ok plane (spooledSubmission config entry) state value answer
    rw [replayEntries, bind_ok (discard_ok sent), bind_ok (by rfl), bind_ok (log_ok _ _)]
    simp [delivered, planeAfter, afterRequest, submittedLine]

/-- A result that is not accepted raises, when it has been sent. -/
theorem replayEntries_rejected (path : String) (entry : CompletedSpoolEntry)
    (rest : List (String × CompletedSpoolEntry)) (submitted : Nat) (state : WorkerState σ)
    (refused : accepted (plane.respond state.plane (spooledSubmission config entry)).1 = false) :
    ∃ error, replayEntries plane config ((path, entry) :: rest) submitted state =
      .error error (afterRequest plane state (spooledSubmission config entry)) := by
  rw [accepted] at refused
  cases answer : answered (plane.respond state.plane (spooledSubmission config entry)).1 with
  | error error =>
    have sent := send_error plane (spooledSubmission config entry) state error answer
    exact ⟨error, by rw [replayEntries, bind_error (discard_error sent)]⟩
  | ok value =>
    rw [answer] at refused
    cases refused

/-- Results are submitted up to the first one that is not accepted. -/
theorem replayEntries_cases (entries : List (String × CompletedSpoolEntry)) (submitted : Nat)
    (state : WorkerState σ) :
    ((∀ verdict ∈ verdicts plane config state.plane entries, verdict = true) ∧
      replayEntries plane config entries submitted state =
        .ok (submitted + entries.length) (delivered plane config state entries)) ∨
    ∃ before refused behind error, entries = before ++ refused :: behind ∧
      false ∈ verdicts plane config state.plane entries ∧
      replayEntries plane config entries submitted state = .error error
        (afterRequest plane (delivered plane config state before)
          (spooledSubmission config refused.2)) := by
  induction entries generalizing submitted state with
  | nil =>
    refine Or.inl ⟨by simp [verdicts], ?_⟩
    simp [replayEntries, delivered, planeAfter, pure, EStateM.pure]
  | cons named rest inductionHypothesis =>
    obtain ⟨path, entry⟩ := named
    cases given : accepted (plane.respond state.plane (spooledSubmission config entry)).1 with
    | false =>
      obtain ⟨error, raised⟩ :=
        replayEntries_rejected plane config path entry rest submitted state given
      refine Or.inr ⟨[], (path, entry), rest, error, rfl, ?_, ?_⟩
      · rw [verdicts, given]
        exact List.mem_cons_self
      · simpa [delivered, planeAfter] using raised
    | true =>
      rw [replayEntries_accepted plane config path entry rest submitted state given, verdicts, given]
      rcases inductionHypothesis (submitted + 1) (delivered plane config state [(path, entry)]) with
        ⟨all, returned⟩ | ⟨before, refused, behind, error, split, first, raised⟩
      · refine Or.inl ⟨List.forall_mem_cons.mpr ⟨rfl, all⟩, ?_⟩
        rw [returned]
        simp [delivered, planeAfter, Nat.add_comm, Nat.add_left_comm]
      · refine Or.inr ⟨(path, entry) :: before, refused, behind, error, by rw [split]; rfl,
          List.mem_cons_of_mem _ first, ?_⟩
        rw [raised]
        simp [delivered, planeAfter]

/-! ## Files of the spool -/

/-- A file is gone once it has been removed, and the others are as they were. -/
theorem find?_removed (paths : List String) (files : ResultSpool.Files) (asked : String) :
    (paths.foldl ResultSpool.remove files).find? asked =
      if asked ∈ paths then none else files.find? asked := by
  induction paths generalizing files with
  | nil => simp
  | cons path rest inductionHypothesis =>
    rw [List.foldl_cons, inductionHypothesis, ResultSpool.remove, Store.Table.find?_delete]
    by_cases same : asked = path
    · simp [same]
    · by_cases later : asked ∈ rest
      · simp [later]
      · have untouched : (files.find? asked).filter (fun _ => !decide (asked = path)) =
            files.find? asked := by
          rw [decide_eq_false same]
          cases files.find? asked <;> rfl
        rw [untouched]
        simp [later, same]

/-- Entries read from files are named after them. -/
theorem names_of_read (files : List (String × String))
    (entries : List (String × CompletedSpoolEntry))
    (read : List.Forall₂ (fun file named =>
      (ResultSpool.readEntry file.2).map (fun entry => (file.1, entry)) = .ok named) files entries) :
    entries.map Prod.fst = files.map Prod.fst := by
  induction read with
  | nil => rfl
  | cons here _ inductionHypothesis =>
    obtain ⟨entry, -, same⟩ := (Store.map_ok_iff _ _ _).mp here
    rw [List.map_cons, List.map_cons, inductionHypothesis, ← same]

/-- The completed entries of a spool are in files of their own. -/
theorem completedEntries_files (files : ResultSpool.Files)
    (entries : List (String × CompletedSpoolEntry))
    (read : ResultSpool.completedEntries files = .ok entries) :
    (entries.map Prod.fst).Nodup ∧ ∀ named ∈ entries, (files.find? named.1).isSome = true := by
  obtain ⟨all, each, kept⟩ := (Store.bind_ok_iff _ _ _).mp read
  have selected : all.filter (fun named => named.2.status = "completed") = entries :=
    Except.ok.inj kept
  have named_after := (Store.mapM_ok_iff _ _ _).mp each
  have names := names_of_read _ _ named_after
  have listed : ((ResultSpool.jsonFiles files).map Prod.fst).Nodup := by
    have sorting := List.perm_insertionSort (fun left right : String × String => left.1 ≤ right.1)
      (files.entries.filter (fun file => ".json".toList.isSuffixOf file.1.toList))
    exact (sorting.map Prod.fst).nodup_iff.mpr
      (files.distinct.sublist (List.filter_sublist.map Prod.fst))
  subst selected
  constructor
  · exact (names ▸ listed).sublist (List.filter_sublist.map Prod.fst)
  · intro named member
    have inAll : named.1 ∈ all.map Prod.fst :=
      List.mem_map.mpr ⟨named, (List.mem_filter.mp member).1, rfl⟩
    rw [names] at inAll
    obtain ⟨file, stored, same⟩ := List.mem_map.mp inAll
    have kept_file := (List.mem_filter.mp ((Ranking.mem_ranked _ _ _).mp stored)).1
    rw [← same, (files.mem_entries_iff file.1 file.2).mp kept_file]
    rfl

/-! ## Where programs lead -/

/-- A request leads to the state after it, whether it returns or raises. -/
theorem sent_send (request : ControlPlaneRequest) (state : WorkerState σ) :
    stateAfter (send plane request state) = afterRequest plane state request := by
  rw [send]
  split <;> rfl

/-- A relation on the states of a worker that its files and its log do not matter to, that holds
in stages, and that holds for a request. -/
structure Leading (leads : WorkerState σ → WorkerState σ → Prop) : Prop where
  quiet : ∀ before after, after.plane = before.plane → after.sent = before.sent → leads before after
  trans : ∀ before between after, leads before between → leads between after → leads before after
  asks : ∀ state request, leads state (afterRequest plane state request)

/-- A program leads from every state to the one that it leaves, whether it returns or raises. -/
def Leads {α : Type} (leads : WorkerState σ → WorkerState σ → Prop) (program : WorkerProgram σ α) :
    Prop :=
  ∀ state, leads state (stateAfter (program state))

namespace Leading

variable {plane} {leads : WorkerState σ → WorkerState σ → Prop} {α β : Type}

/-- A program that sends nothing. -/
theorem nothing (leading : Leading plane leads) {program : WorkerProgram σ α}
    (same : ∀ state, (stateAfter (program state)).plane = state.plane ∧
      (stateAfter (program state)).sent = state.sent) : Leads leads program :=
  fun state => leading.quiet _ _ (same state).1 (same state).2

/-- Programs in sequence. -/
theorem bind (leading : Leading plane leads) {program : WorkerProgram σ α}
    {rest : α → WorkerProgram σ β} (first : Leads leads program)
    (second : ∀ value, Leads leads (rest value)) : Leads leads (program >>= rest) := by
  intro state
  have here := first state
  cases ran : program state with
  | error error next =>
    rw [bind_error ran]
    rw [ran] at here
    exact here
  | ok value next =>
    rw [bind_ok ran]
    rw [ran] at here
    exact leading.trans _ _ _ here (second value next)

/-- A request. -/
theorem send (leading : Leading plane leads) (request : ControlPlaneRequest) :
    Leads leads (ControlPlaneClient.send plane request) := by
  intro state
  rw [sent_send]
  exact leading.asks state request

/-- A request whose answer is discarded. -/
theorem discard (leading : Leading plane leads) (request : ControlPlaneRequest) :
    Leads leads (discard (ControlPlaneClient.send plane request) : WorkerProgram σ Unit) := by
  intro state
  have here := leading.send request state
  cases ran : ControlPlaneClient.send plane request state with
  | error error next =>
    rw [discard_error ran]
    rwa [ran] at here
  | ok value next =>
    rw [discard_ok ran]
    rwa [ran] at here

/-- A result that is raised or returned. -/
theorem lift (leading : Leading plane leads) (result : Except Raised α) :
    Leads leads (WorkerDaemon.lift result : WorkerProgram σ α) := by
  apply leading.nothing
  intro state
  cases result <;> exact ⟨rfl, rfl⟩

/-- The log. -/
theorem log (leading : Leading plane leads) (message : String) :
    Leads leads (WorkerDaemon.log message : WorkerProgram σ Unit) := by
  apply leading.nothing
  intro state
  rw [log_ok]
  exact ⟨rfl, rfl⟩

/-- Raising. -/
theorem throw (leading : Leading plane leads) (error : WorkerRaised) :
    Leads leads (throw error : WorkerProgram σ α) :=
  leading.nothing fun _ => ⟨rfl, rfl⟩

/-- Returning. -/
theorem pure (leading : Leading plane leads) (value : α) :
    Leads leads (pure value : WorkerProgram σ α) :=
  leading.nothing fun _ => ⟨rfl, rfl⟩

/-- The registration. -/
theorem ensureRegistered (leading : Leading plane leads) :
    Leads leads (WorkerDaemon.ensureRegistered plane config) := by
  refine leading.bind (leading.nothing fun _ => ⟨rfl, rfl⟩) fun state => ?_
  split
  · refine leading.bind (leading.discard _) fun _ => ?_
    exact leading.bind (leading.nothing fun _ => ⟨rfl, rfl⟩) fun _ => leading.log _
  · exact leading.pure _

/-- Spooled results. -/
theorem replayEntries (leading : Leading plane leads)
    (entries : List (String × CompletedSpoolEntry)) (submitted : Nat) :
    Leads leads (WorkerDaemon.replayEntries plane config entries submitted) := by
  induction entries generalizing submitted with
  | nil => exact leading.pure _
  | cons named rest inductionHypothesis =>
    refine leading.bind (leading.discard _) fun _ => ?_
    refine leading.bind (leading.nothing fun _ => ⟨rfl, rfl⟩) fun _ => ?_
    exact leading.bind (leading.log _) fun _ => inductionHypothesis _

/-- The spool. -/
theorem replayCompletedSpool (leading : Leading plane leads) :
    Leads leads (WorkerDaemon.replayCompletedSpool plane config) := by
  refine leading.bind (leading.nothing fun _ => ⟨rfl, rfl⟩) fun state => ?_
  exact leading.bind (leading.lift _) fun entries => leading.replayEntries config _ _

/-- A heartbeat. -/
theorem heartbeatOnce (leading : Leading plane leads) :
    Leads leads (WorkerDaemon.heartbeatOnce plane config) :=
  leading.bind (leading.discard _) fun _ => leading.log _

/-- A poll. -/
theorem pollAssignment (leading : Leading plane leads) :
    Leads leads (WorkerDaemon.pollAssignment plane config) := by
  refine leading.bind (leading.send _) fun response => ?_
  refine leading.bind (leading.lift _) fun members => ?_
  split
  · exact leading.pure _
  · refine leading.bind (leading.lift _) fun fields => ?_
    split_ifs
    · exact leading.pure _
    · exact leading.throw _

variable (platform : WorkerPlatform)

/-- A submission, which is at most put into the spool after that. -/
theorem submitOrSpool (leading : Leading plane leads) (assignmentId : String) (leaseToken : Json)
    (envelope : WorkUnitResultEnvelope) :
    Leads leads (WorkerDaemon.submitOrSpool plane config platform assignmentId leaseToken
      envelope) := by
  have spools (text : String) : Leads leads (spoolRefused (σ := σ) config platform assignmentId
      leaseToken envelope.output text) := by
    refine leading.bind (leading.nothing fun state => ?_) (fun _ =>
      leading.bind (leading.log _) fun _ => leading.throw _)
    cases leaseToken <;> exact ⟨rfl, rfl⟩
  intro state
  have first := leading.send (submission config.workerToken assignmentId config.workerId
    envelope.output leaseToken none (some envelope.modelDump)) state
  rw [WorkerDaemon.submitOrSpool]
  split
  · rename_i text after raised
    rw [raised] at first
    exact leading.trans _ _ _ first (spools text after)
  · exact first

/-- An assignment. -/
theorem handleAssignment (leading : Leading plane leads) (assignment : JsonObject) :
    Leads leads (WorkerDaemon.handleAssignment plane config platform assignment) := by
  refine leading.bind (leading.lift _) fun _ => ?_
  refine leading.bind (leading.send _) fun _ => ?_
  refine leading.bind (leading.lift _) fun _ => ?_
  refine leading.bind (leading.lift _) fun _ => ?_
  refine leading.bind (leading.lift _) fun _ => ?_
  refine leading.bind (leading.send _) fun _ => ?_
  refine leading.bind (leading.submitOrSpool config platform _ _ _) fun _ => ?_
  refine leading.bind (leading.lift _) fun _ => ?_
  exact leading.bind (leading.log _) fun _ => leading.pure _

/-- What a round ends with. -/
theorem afterPoll (leading : Leading plane leads) (spooledCount : Nat)
    (assignment : Option JsonObject) :
    Leads leads (WorkerDaemon.afterPoll plane config platform spooledCount assignment) := by
  cases assignment with
  | none => exact leading.pure _
  | some assignment =>
    exact leading.bind (leading.handleAssignment config platform assignment) fun _ => leading.pure _

/-- A round. -/
theorem runOnce (leading : Leading plane leads) :
    Leads leads (WorkerDaemon.runOnce plane config platform) := by
  refine leading.bind (leading.ensureRegistered config) fun _ => ?_
  refine leading.bind (leading.replayCompletedSpool config) fun _ => ?_
  refine leading.bind (leading.heartbeatOnce config) fun _ => ?_
  exact leading.bind (leading.pollAssignment config) fun _ => leading.afterPoll config platform _ _

end Leading

/-! ## Requests are not taken back -/

/-- A program sends requests behind those that were sent before. -/
def Sends {α : Type} (program : WorkerProgram σ α) : Prop :=
  ∀ state, ∃ later, (stateAfter (program state)).sent = state.sent ++ later

/-- Requests are sent behind those that were sent before. -/
theorem sending : Leading plane (fun before after => ∃ later, after.sent = before.sent ++ later) where
  quiet before after _ same := ⟨[], by rw [same, List.append_nil]⟩
  trans before between after first second := by
    obtain ⟨later, sent⟩ := first
    obtain ⟨more, sentMore⟩ := second
    exact ⟨later ++ more, by rw [sentMore, sent, List.append_assoc]⟩
  asks state request := ⟨[request], rfl⟩

/-- A program sends some request before any other. -/
def SendsFirst {α : Type} (request : ControlPlaneRequest) (program : WorkerProgram σ α) : Prop :=
  ∀ state, ∃ later, (stateAfter (program state)).sent = state.sent ++ request :: later

/-- What follows a program does not change what is sent first. -/
theorem sendsFirst_bind {α β : Type} {request : ControlPlaneRequest} {program : WorkerProgram σ α}
    {rest : α → WorkerProgram σ β} (first : SendsFirst request program)
    (second : ∀ value, Sends (rest value)) : SendsFirst request (program >>= rest) := by
  intro state
  obtain ⟨later, sent⟩ := first state
  cases ran : program state with
  | error error next =>
    rw [bind_error ran]
    rw [ran] at sent
    exact ⟨later, sent⟩
  | ok value next =>
    rw [bind_ok ran]
    rw [ran] at sent
    obtain ⟨more, sentLater⟩ := second value next
    have before : next.sent = state.sent ++ request :: later := sent
    exact ⟨later ++ more, by rw [sentLater, before, List.append_assoc, List.cons_append]⟩

/-- A request is sent before any other. -/
theorem sendsFirst_send (request : ControlPlaneRequest) : SendsFirst request (send plane request) :=
  fun state => ⟨[], by rw [sent_send]; rfl⟩

/-- A poll asks for an assignment before anything else. -/
theorem sendsFirst_poll :
    SendsFirst (poll config.workerToken config.workerId) (pollAssignment plane config) := by
  refine sendsFirst_bind (sendsFirst_send plane _) fun response => ?_
  refine (sending plane).bind ((sending plane).lift _) fun members => ?_
  split
  · exact (sending plane).pure _
  · refine (sending plane).bind ((sending plane).lift _) fun fields => ?_
    split_ifs
    · exact (sending plane).pure _
    · exact (sending plane).throw _

/-- A round goes on with a heartbeat, and with a poll if the heartbeat is accepted. -/
theorem afterReplay_sends (platform : WorkerPlatform) (spooledCount : Nat) (state : WorkerState σ) :
    ∃ later, (stateAfter (afterReplay plane config platform spooledCount state)).sent =
        state.sent ++ heartbeat config.workerToken config.workerId :: later ∧
      (accepted (plane.respond state.plane (heartbeat config.workerToken config.workerId)).1 = true →
        later.head? = some (poll config.workerToken config.workerId)) := by
  rw [accepted, afterReplay]
  cases answer : answered
      (plane.respond state.plane (heartbeat config.workerToken config.workerId)).1 with
  | error error =>
    have sent := send_error plane _ state error answer
    have beaten : heartbeatOnce plane config state = .error error (afterRequest plane state _) :=
      bind_error (discard_error sent) _
    rw [bind_error beaten]
    exact ⟨[], rfl, fun given => by cases given⟩
  | ok value =>
    have sent := send_ok plane _ state value answer
    have beaten : heartbeatOnce plane config state = .ok () _ :=
      (bind_ok (discard_ok sent) _).trans (log_ok _ _)
    rw [bind_ok beaten]
    have rest := sendsFirst_bind (sendsFirst_poll plane config)
      (fun given => (sending plane).afterPoll config platform spooledCount given)
    obtain ⟨later, sentLater⟩ := rest _
    exact ⟨_ :: later, by rw [sentLater]; simp [afterRequest], fun _ => rfl⟩

/-! ## Replaying the spool -/

/-- What a replay of the spool should come to, in a round that begins in one state and is in
another one when the worker has registered: every result that the control plane accepts is
submitted once and its file is gone, the file of every other one is still there, and the round
goes on with a heartbeat and a poll. -/
structure Replayed (platform : WorkerPlatform) (begun ready : WorkerState σ)
    (entries : List (String × CompletedSpoolEntry)) : Prop where
  submitted : ∃ tried : List (String × CompletedSpoolEntry), tried.Sublist entries ∧
    (∀ named, (named, true) ∈ entries.zip (verdicts plane config ready.plane entries) →
      named ∈ tried) ∧
    (stateAfter (replayCompletedSpool plane config ready)).sent =
      ready.sent ++ tried.map (fun named => spooledSubmission config named.2)
  removed : ∀ named, (named, true) ∈ entries.zip (verdicts plane config ready.plane entries) →
    (stateAfter (replayCompletedSpool plane config ready)).spool.find? named.1 = none
  kept : ∀ named, (named, false) ∈ entries.zip (verdicts plane config ready.plane entries) →
    ((stateAfter (replayCompletedSpool plane config ready)).spool.find? named.1).isSome = true ∧
    (stateAfter (replayCompletedSpool plane config ready)).spool.find? named.1 =
      ready.spool.find? named.1
  goesOn : ∃ later, (stateAfter (runOnce plane config platform begun)).sent =
      (stateAfter (replayCompletedSpool plane config ready)).sent ++
        heartbeat config.workerToken config.workerId :: later ∧
      (accepted (plane.respond (stateAfter (replayCompletedSpool plane config ready)).plane
        (heartbeat config.workerToken config.workerId)).1 = true →
        later.head? = some (poll config.workerToken config.workerId))

/-- A spool is replayed entry by entry. -/
theorem replayCompletedSpool_entries (state : WorkerState σ)
    (entries : List (String × CompletedSpoolEntry))
    (read : ResultSpool.completedEntries state.spool = .ok entries) :
    replayCompletedSpool plane config state = replayEntries plane config entries 0 state := by
  have asked : (get : WorkerProgram σ (WorkerState σ)) state = .ok state state := rfl
  rw [replayCompletedSpool, bind_ok asked, read]
  rfl

/-- Whatever the control plane makes of its requests, a spool of completed results is replayed as
it should exactly if every result in it is accepted. -/
theorem spool_replayed_iff (platform : WorkerPlatform) (begun ready : WorkerState σ)
    (registered : ensureRegistered plane config begun = .ok () ready)
    (entries : List (String × CompletedSpoolEntry))
    (read : ResultSpool.completedEntries ready.spool = .ok entries) :
    Replayed plane config platform begun ready entries ↔
      ∀ verdict ∈ verdicts plane config ready.plane entries, verdict = true := by
  have replayed := replayCompletedSpool_entries plane config ready entries read
  rcases replayEntries_cases plane config entries 0 ready with
    ⟨all, returned⟩ | ⟨before, refused, behind, error, -, first, raised⟩
  · refine iff_of_true ?_ all
    rw [returned] at replayed
    have round : runOnce plane config platform begun = afterReplay plane config platform
        (0 + entries.length) (delivered plane config ready entries) := by
      rw [runOnce, bind_ok registered, bind_ok replayed]
    refine ⟨⟨entries, List.Sublist.refl _, fun named member => (List.of_mem_zip member).1, ?_⟩,
      ?_, ?_, ?_⟩
    · rw [replayed]
      rfl
    · intro named member
      have listed := List.mem_map_of_mem (f := Prod.fst) (List.of_mem_zip member).1
      rw [replayed]
      exact (find?_removed _ _ _).trans (if_pos listed)
    · intro named member
      exact absurd (all false (List.of_mem_zip member).2) (by decide)
    · rw [round, replayed]
      exact afterReplay_sends plane config platform _ _
  · refine iff_of_false ?_ (fun all => by cases all false first)
    intro holds
    rw [raised] at replayed
    have round : runOnce plane config platform begun = .error error
        (afterRequest plane (delivered plane config ready before)
          (spooledSubmission config refused.2)) := by
      rw [runOnce, bind_ok registered, bind_error replayed]
    obtain ⟨later, sent, -⟩ := holds.goesOn
    rw [round, replayed] at sent
    have lengths := congrArg List.length sent
    simp [stateAfter] at lengths

/-! ## A refused result in front of an accepted one -/

/-- A control plane that knows no assignment but one, and has no work. -/
def forgetfulPlane : ControlPlaneServer Unit where
  respond := fun _ request =>
    if request.path = "/v0/assignments/a/result" then
      (.ok ⟨404, "\x7b\"detail\":\"assignment not found\"\x7d"⟩, ())
    else (.ok ⟨200, "\x7b\x7d"⟩, ())

/-- The configuration of the sample worker. -/
def sampleConfig : WorkerConfig := { workerId := "w", workerToken := "tbk_w_1" }

/-- A platform whose executions fail. -/
def samplePlatform : WorkerPlatform where
  runtime := ⟨fun _ => false, fun _ => false, fun _ => "", fun _ => none⟩
  leaseTokenHash := fun token => "h" ++ token
  executeEnvelope := fun _ => .error .validationError

/-- A registered worker with some results in its spool. -/
def sampleState (assignmentIds : List String) : WorkerState Unit where
  plane := ()
  spool := assignmentIds.foldl (fun files assignmentId => ResultSpool.writeCompleted
    samplePlatform.leaseTokenHash files assignmentId "w" "" [])
    Store.Table.empty
  registered := true

/-- The files of a spool with their verdicts. -/
def spoolVerdicts (assignmentIds : List String) : Option (List String × List Bool) :=
  (ResultSpool.completedEntries (sampleState assignmentIds).spool).toOption.map (fun entries =>
    (entries.map Prod.fst, verdicts forgetfulPlane sampleConfig () entries))

/-- The entries of a sample spool. -/
theorem sample_read (assignmentIds names : List String) (decided : List Bool)
    (read : spoolVerdicts assignmentIds = some (names, decided)) :
    ∃ entries, ResultSpool.completedEntries (sampleState assignmentIds).spool = .ok entries ∧
      entries.map Prod.fst = names ∧ verdicts forgetfulPlane sampleConfig () entries = decided := by
  rw [spoolVerdicts] at read
  cases found : ResultSpool.completedEntries (sampleState assignmentIds).spool with
  | error raised =>
    rw [found] at read
    cases read
  | ok entries =>
    rw [found] at read
    obtain ⟨named, judged⟩ := Prod.mk.inj (Option.some.inj read)
    exact ⟨entries, rfl, named, judged⟩

/-- A spool of two results that are both accepted is replayed as it should: both are submitted,
and their files are gone. -/
theorem spool_replayed_both : ∃ entries, entries.map Prod.fst = ["spool_b.json", "spool_c.json"] ∧
    verdicts forgetfulPlane sampleConfig () entries = [true, true] ∧
    Replayed forgetfulPlane sampleConfig samplePlatform (sampleState ["b", "c"])
      (sampleState ["b", "c"]) entries := by
  obtain ⟨entries, read, named, judged⟩ := sample_read ["b", "c"]
    ["spool_b.json", "spool_c.json"] [true, true] (by decide +kernel)
  refine ⟨entries, named, judged, ?_⟩
  refine (spool_replayed_iff forgetfulPlane sampleConfig samplePlatform _ _ rfl entries read).mpr ?_
  intro verdict member
  change verdict ∈ verdicts forgetfulPlane sampleConfig () entries at member
  rw [judged] at member
  simpa using member

/-- Of two results the first one is refused and the second one would be accepted. The second one is
not submitted, its file stays, and there is no heartbeat. -/
theorem spool_blocked : ∃ entries,
    ResultSpool.completedEntries (sampleState ["a", "b"]).spool = .ok entries ∧
    verdicts forgetfulPlane sampleConfig () entries = [false, true] ∧
    ¬ Replayed forgetfulPlane sampleConfig samplePlatform (sampleState ["a", "b"])
      (sampleState ["a", "b"]) entries := by
  obtain ⟨entries, read, named, judged⟩ := sample_read ["a", "b"]
    ["spool_a.json", "spool_b.json"] [false, true] (by decide +kernel)
  refine ⟨entries, read, judged, ?_⟩
  intro holds
  obtain ⟨first, others, rfl, -, named_others⟩ := List.map_eq_cons_iff.mp named
  obtain ⟨second, rest, rfl, -, -⟩ := List.map_eq_cons_iff.mp named_others
  have gone := holds.removed second (by
    change (second, true) ∈ List.zip _ (verdicts forgetfulPlane sampleConfig () _)
    rw [judged]
    simp)
  obtain ⟨error, raised⟩ := replayEntries_rejected forgetfulPlane sampleConfig first.1 first.2
    (second :: rest) 0 (sampleState ["a", "b"]) (List.cons.inj judged).1
  rw [replayCompletedSpool_entries forgetfulPlane sampleConfig _ _ read, raised] at gone
  have stays := (completedEntries_files _ _ read).2 second (by simp)
  rw [show (sampleState ["a", "b"]).spool.find? second.1 = none from gone] at stays
  cases stays

end WorkerDaemon

end TokenBank
