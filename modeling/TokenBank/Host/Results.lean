import TokenBank.Host.Effects

/-!
# The host's calls as a system

Work units, plans and decisions are stored, the scheduler is called, results are finalized and
their summaries asked for, one call after the other. Each call has one of a few effects; what
they have in common is that a stored result stays what it is, and that its body is the
envelope or the raw output it was submitted with.
-/

namespace TokenBank

/-- A call of the host, or of the scheduler on its behalf. A plan is stored by a submission, or
by the endpoint that plans a route. -/
inductive ResultOp : Type
  | persistRunAndWorkUnit (draws : Draws) (workUnit : WorkUnit) (phase : String)
  | persistRoutePlan (draws : Draws) (routePlan : RoutePlan)
  | planRoute (routePlan : RoutePlan)
  | persistPolicyDecision (draws : Draws) (decision : PolicyDecision)
  | schedule (op : SchedulerOp)
  | finalize (draws : Draws) (resultEnvelopeId : String)
  | getSummary (draws : Draws) (workUnitId : String)

namespace HostPlane

/-- The tables of the app's other handlers are a part. -/
def controlPart : Store.Part HostPlane ControlPlane where
  read := plane
  replace host plane := { host with plane := plane }
  read_replace _ _ := rfl
  replace_read _ := rfl
  replace_replace _ _ _ := rfl

end HostPlane

namespace ResultOp

/-- The program of a call, on the tables it concerns. -/
def program (platform : ResultsPlatform) : ResultOp → Store.Client ResultsPlane Raised Unit
  | .persistRunAndWorkUnit draws workUnit phase =>
    (Host.persistRunAndWorkUnit draws workUnit phase).on ResultsPlane.hostPart.read
      ResultsPlane.hostPart.replace
  | .persistRoutePlan draws routePlan =>
    (Host.persistRoutePlan draws routePlan).on ResultsPlane.hostPart.read
      ResultsPlane.hostPart.replace
  | .planRoute routePlan =>
    ((ControlPlane.persistRoutePlan routePlan.routePlanId routePlan.workUnitId
      (.obj routePlan.modelDump) routePlan.createdAt).on HostPlane.controlPart.read
        HostPlane.controlPart.replace).on ResultsPlane.hostPart.read ResultsPlane.hostPart.replace
  | .persistPolicyDecision draws decision =>
    (Host.persistPolicyDecision draws decision).on ResultsPlane.hostPart.read
      ResultsPlane.hostPart.replace
  | .schedule op =>
    (op.program platform.scheduler).on ResultsPlane.dbPart.read ResultsPlane.dbPart.replace >>=
      fun _ => pure ()
  | .finalize draws resultEnvelopeId =>
    Host.finalizeUrlCheckResult platform draws resultEnvelopeId >>= fun _ => pure ()
  | .getSummary draws workUnitId =>
    Host.getHostResultSummary platform draws workUnitId >>= fun _ => pure ()

end ResultOp

namespace ResultsPlane

/-- The tables after one call. -/
def step (platform : ResultsPlatform) (plane : ResultsPlane) (op : ResultOp) : ResultsPlane :=
  ((op.program platform).run plane).2

end ResultsPlane

/-! ## Storing work units, plans and decisions -/

/-- The row of a route plan. -/
def routePlanRow (routePlan : RoutePlan) : RoutePlanRow :=
  ⟨routePlan.workUnitId, "planned", .obj routePlan.modelDump, routePlan.createdAt⟩

/-- A stored plan, after another one was written under its id. -/
def rewriteRoutePlan (routePlan : RoutePlan) (row : RoutePlanRow) : RoutePlanRow :=
  { row with status := "planned", body := .obj routePlan.modelDump }

/-- Writing a plan files it, or rewrites the one under its id. -/
theorem ControlPlane.putRoutePlan_ok (routePlan : RoutePlan) (before after : ControlPlane)
    (written : putRoutePlan routePlan.routePlanId routePlan.workUnitId (.obj routePlan.modelDump)
      routePlan.createdAt before = .ok after) :
    ∃ keys, after =
      { before with
        db := { before.db with routePlans := keys }
        routePlans := before.routePlans.upsert routePlan.routePlanId (routePlanRow routePlan)
          (rewriteRoutePlan routePlan) } := by
  unfold putRoutePlan at written
  cases found : before.routePlans.find? routePlan.routePlanId with
  | some row =>
    simp only [found, Option.isSome_some, if_true, Except.ok.injEq] at written
    rw [Store.Table.upsert_present _ _ _ _ (by simp [found])]
    exact ⟨before.db.routePlans, written.symm⟩
  | none =>
    simp only [found, Option.isSome_none, Bool.false_eq_true, if_false] at written
    obtain ⟨plans, inserted, rfl⟩ := (Store.map_ok_iff _ _ _).mp written
    have stored := ((Db.inserting_ok_iff _ _ _ _ _ _).mp inserted).1
    have absent := Store.Table.upsert_absent before.routePlans routePlan.routePlanId
      (routePlanRow routePlan) (rewriteRoutePlan routePlan) found
    rw [routePlanRow] at absent
    rw [Option.some.inj (stored.symm.trans absent)]
    exact ⟨_, rfl⟩

namespace Host

/-- The row of a work unit's other columns. -/
def workUnitDetails (workUnit : WorkUnit) : WorkUnitDetails :=
  ⟨workUnit.runId, workUnit.taskType, workUnit.taskLevel.text, .obj workUnit.modelDump,
    workUnit.createdAt⟩

/-- The row of a decision. -/
def policyDecisionRow (decision : PolicyDecision) : PolicyDecisionRow :=
  ⟨decision.workUnitId, decision.routePlanId, decision.decision.text, .obj decision.modelDump,
    decision.decidedAt⟩

/-- A stored decision, after another one was written under its id. -/
def rewritePolicyDecision (decision : PolicyDecision) (row : PolicyDecisionRow) :
    PolicyDecisionRow :=
  { row with decision := decision.decision.text, body := .obj decision.modelDump }

/-- The transaction of a work unit files its rows. -/
theorem persistRunAndWorkUnitWrites_ok (draws : Draws) (workUnit : WorkUnit) (phase : String)
    (before after : HostPlane) (value : Unit)
    (stored : (persistRunAndWorkUnitWrites draws workUnit phase).run before = .ok (value, after)) :
    ∃ runs workUnits details outbox,
      before.db.workUnits.insert workUnit.workUnitId ⟨workUnit.status, workUnit.createdAt⟩ =
        some workUnits ∧
      before.workUnitDetails.insert workUnit.workUnitId (workUnitDetails workUnit) =
        some details ∧
      after =
        { before.withDb { before.db with workUnits := workUnits, eventOutbox := outbox } with
          runs := runs
          workUnitDetails := details } := by
  simp only [persistRunAndWorkUnitWrites, Store.Block.run_bind_ok, Store.Block.run_put_ok] at stored
  obtain ⟨-, ran, run, -, written, unit, value, told, first, second⟩ := stored
  obtain ⟨runs, -, rfl⟩ := (Store.map_ok_iff _ _ _).mp run
  simp only [insertWorkUnit, Store.bind_ok_iff, Db.inserting_ok_iff] at unit
  obtain ⟨workUnits, ⟨inserted, -⟩, details, ⟨described, -⟩, returned⟩ := unit
  have same_written := Except.ok.inj returned
  subst same_written
  obtain ⟨outbox, rfl⟩ := enqueueIn_ok HostPlane.dbPart _ _ _ _ _ first
  obtain ⟨outbox, rfl⟩ := enqueueIn_ok HostPlane.dbPart _ _ _ _ _ second
  exact ⟨runs, workUnits, details, outbox, inserted, described, rfl⟩

/-- The transaction of a plan files or rewrites its row. -/
theorem persistRoutePlanWrites_ok (draws : Draws) (routePlan : RoutePlan)
    (before after : HostPlane) (value : Unit)
    (stored : (persistRoutePlanWrites draws routePlan).run before = .ok (value, after)) :
    ∃ keys outbox, after =
      { before with
        plane := { before.plane with
          db := { before.db with routePlans := keys, eventOutbox := outbox }
          routePlans := before.plane.routePlans.upsert routePlan.routePlanId
            (routePlanRow routePlan) (rewriteRoutePlan routePlan) } } := by
  simp only [persistRoutePlanWrites, Store.Block.run_bind_ok, Store.Block.run_put_ok] at stored
  obtain ⟨-, written, put, enqueued⟩ := stored
  obtain ⟨plane, planned, rfl⟩ := (Store.map_ok_iff _ _ _).mp put
  obtain ⟨keys, rfl⟩ := ControlPlane.putRoutePlan_ok routePlan before.plane plane planned
  obtain ⟨outbox, rfl⟩ := enqueueIn_ok HostPlane.dbPart _ _ _ _ _ enqueued
  exact ⟨keys, outbox, rfl⟩

/-- The transaction of a decision files or rewrites its row. -/
theorem persistPolicyDecisionWrites_ok (draws : Draws) (decision : PolicyDecision)
    (before after : HostPlane) (value : Unit)
    (stored : (persistPolicyDecisionWrites draws decision).run before = .ok (value, after)) :
    ∃ keys outbox, after =
      { before.withDb { before.db with policyDecisions := keys, eventOutbox := outbox } with
        policyDecisions := before.policyDecisions.upsert decision.policyDecisionId
          (policyDecisionRow decision) (rewritePolicyDecision decision) } := by
  simp only [persistPolicyDecisionWrites, Store.Block.run_bind_ok, Store.Block.run_put_ok] at stored
  obtain ⟨-, written, put, enqueued⟩ := stored
  obtain ⟨outbox, rfl⟩ := enqueueIn_ok HostPlane.dbPart _ _ _ _ _ enqueued
  unfold putPolicyDecision at put
  cases found : before.policyDecisions.find? decision.policyDecisionId with
  | some row =>
    simp only [found, Option.isSome_some, if_true, Except.ok.injEq] at put
    subst put
    rw [Store.Table.upsert_present _ _ _ _ (by simp [found])]
    exact ⟨before.db.policyDecisions, outbox, rfl⟩
  | none =>
    simp only [found, Option.isSome_none, Bool.false_eq_true, if_false] at put
    obtain ⟨decisions, inserted, rfl⟩ := (Store.map_ok_iff _ _ _).mp put
    have stored := ((Db.inserting_ok_iff _ _ _ _ _ _).mp inserted).1
    have absent := Store.Table.upsert_absent before.policyDecisions decision.policyDecisionId
      (policyDecisionRow decision) (rewritePolicyDecision decision) found
    rw [policyDecisionRow] at absent
    rw [Option.some.inj (stored.symm.trans absent)]
    exact ⟨_, outbox, rfl⟩

end Host

/-! ## Effects of calls -/

/-- What a call has done: nothing, or what its kind does. -/
inductive Happened (platform : ResultsPlatform) (plane : ResultsPlane) :
    ResultOp → ResultsPlane → Prop
  | nothing (op : ResultOp) : Happened platform plane op plane
  | workUnit (draws : Draws) (workUnit : WorkUnit) (phase : String)
      (runs : Store.Table String RunRow) (workUnits : Store.Table String WorkUnitRow)
      (details : Store.Table String WorkUnitDetails) (outbox : Store.Table String EventRow)
      (inserted : plane.db.workUnits.insert workUnit.workUnitId
        ⟨workUnit.status, workUnit.createdAt⟩ = some workUnits)
      (described : plane.host.workUnitDetails.insert workUnit.workUnitId
        (Host.workUnitDetails workUnit) = some details) :
      Happened platform plane (.persistRunAndWorkUnit draws workUnit phase)
        { plane with
          host := { plane.host.withDb
              { plane.db with workUnits := workUnits, eventOutbox := outbox } with
            runs := runs
            workUnitDetails := details } }
  | routePlan (op : ResultOp) (routePlan : RoutePlan) (keys : List String)
      (outbox : Store.Table String EventRow)
      (stores : op = .planRoute routePlan ∨ ∃ draws, op = .persistRoutePlan draws routePlan) :
      Happened platform plane op
        { plane with
          host := { plane.host with
            plane := { plane.host.plane with
              db := { plane.db with routePlans := keys, eventOutbox := outbox }
              routePlans := plane.host.plane.routePlans.upsert routePlan.routePlanId
                (routePlanRow routePlan) (rewriteRoutePlan routePlan) } } }
  | policyDecision (draws : Draws) (decision : PolicyDecision) (keys : List String)
      (outbox : Store.Table String EventRow) :
      Happened platform plane (.persistPolicyDecision draws decision)
        { plane with
          host := { plane.host.withDb
              { plane.db with policyDecisions := keys, eventOutbox := outbox } with
            policyDecisions := plane.host.policyDecisions.upsert decision.policyDecisionId
              (Host.policyDecisionRow decision) (Host.rewritePolicyDecision decision) } }
  | scheduled (op : SchedulerOp) :
      Happened platform plane (.schedule op)
        (ResultsPlane.dbPart.replace plane (Scheduler.step platform.scheduler plane.db op))
  | finalized (draws : Draws) (resultEnvelopeId : String)
      (result : Except Raised (Option (VerifierReport × HostResultSummary))) (left : ResultsPlane)
      (ends : Host.Finalized platform draws resultEnvelopeId plane result left) :
      Happened platform plane (.finalize draws resultEnvelopeId) left
  | asked (draws : Draws) (workUnitId resultEnvelopeId : String) (row : ResultEnvelopeRow)
      (result : Except Raised (Option (VerifierReport × HostResultSummary))) (left : ResultsPlane)
      (unsummarised : Host.latestSummary plane workUnitId = none)
      (last : Host.latestResult plane.db workUnitId = some (resultEnvelopeId, row))
      (ends : Host.Finalized platform draws resultEnvelopeId plane result left) :
      Happened platform plane (.getSummary draws workUnitId) left

namespace ResultsPlane

/-- A call whose value is not used leaves what it leaves. -/
theorem run_discarded {α : Type} (client : Store.Client ResultsPlane Raised α)
    (plane : ResultsPlane) :
    ((client >>= fun _ => pure ()).run plane).2 = (client.run plane).2 := by
  simp only [Store.Client.run, Store.Client.runOn_finish, Store.Client.finish_bind]
  cases client.finish ⟨plane, none⟩ with
  | mk result left => cases result <;> rfl

/-- A call of the scheduler changes the scheduler's tables as it does alone. -/
theorem step_schedule (platform : ResultsPlatform) (plane : ResultsPlane) (op : SchedulerOp) :
    step platform plane (.schedule op) =
      dbPart.replace plane (Scheduler.step platform.scheduler plane.db op) := by
  unfold step
  simp only [ResultOp.program, run_discarded, Store.Part.run_on]
  rfl

/-- A transaction on the tables of the host leaves them as they are, or as its block computed. -/
theorem run_host (block : Store.Block HostPlane Raised Unit) (plane : ResultsPlane)
    (holds : ResultsPlane → Prop) (unchanged : holds plane)
    (changed : ∀ value host, block.run plane.host = .ok (value, host) →
      holds { plane with host := host }) :
    holds (((Store.Client.transaction Db.nestedTransaction block).on hostPart.read
      hostPart.replace).run plane).2 := by
  rw [Store.Part.run_on, Store.Client.run_transaction]
  change holds (hostPart.replace plane _)
  cases computed : block.run plane.host with
  | error error =>
    simp only [hostPart, computed]
    exact unchanged
  | ok outcome =>
    simp only [hostPart, computed]
    exact changed outcome.1 outcome.2 computed

/-- Every call has one of the effects of its kind. -/
theorem step_happened (platform : ResultsPlatform) (plane : ResultsPlane) (op : ResultOp) :
    Happened platform plane op (step platform plane op) := by
  unfold step
  cases op with
  | persistRunAndWorkUnit draws workUnit phase =>
    refine run_host (Host.persistRunAndWorkUnitWrites draws workUnit phase) plane
      (Happened platform plane (.persistRunAndWorkUnit draws workUnit phase)) (.nothing _) ?_
    intro value host stored
    obtain ⟨runs, workUnits, details, outbox, inserted, described, rfl⟩ :=
      Host.persistRunAndWorkUnitWrites_ok draws workUnit phase _ _ _ stored
    exact .workUnit draws workUnit phase runs workUnits details outbox inserted described
  | persistRoutePlan draws routePlan =>
    refine run_host (Host.persistRoutePlanWrites draws routePlan) plane
      (Happened platform plane (.persistRoutePlan draws routePlan)) (.nothing _) ?_
    intro value host stored
    obtain ⟨keys, outbox, rfl⟩ := Host.persistRoutePlanWrites_ok draws routePlan _ _ _ stored
    exact .routePlan _ routePlan keys outbox (.inr ⟨draws, rfl⟩)
  | planRoute routePlan =>
    simp only [ResultOp.program, Store.Part.run_on, ControlPlane.persistRoutePlan,
      Store.Client.run_implicitly_put]
    cases planned : ControlPlane.putRoutePlan routePlan.routePlanId routePlan.workUnitId
        (.obj routePlan.modelDump) routePlan.createdAt plane.host.plane with
    | error error =>
      simp only [hostPart, HostPlane.controlPart, planned]
      exact .nothing _
    | ok control =>
      obtain ⟨keys, rfl⟩ := ControlPlane.putRoutePlan_ok routePlan _ _ planned
      simp only [hostPart, HostPlane.controlPart, planned]
      exact .routePlan _ routePlan keys plane.db.eventOutbox (.inl rfl)
  | persistPolicyDecision draws decision =>
    refine run_host (Host.persistPolicyDecisionWrites draws decision) plane
      (Happened platform plane (.persistPolicyDecision draws decision)) (.nothing _) ?_
    intro value host stored
    obtain ⟨keys, outbox, rfl⟩ := Host.persistPolicyDecisionWrites_ok draws decision _ _ _ stored
    exact .policyDecision draws decision keys outbox
  | schedule op =>
    simp only [ResultOp.program, run_discarded, Store.Part.run_on]
    exact .scheduled op
  | finalize draws resultEnvelopeId =>
    simp only [ResultOp.program, run_discarded]
    exact .finalized draws resultEnvelopeId _ _
      (Host.finalizeUrlCheckResult_ensures platform draws resultEnvelopeId plane).run
  | getSummary draws workUnitId =>
    simp only [ResultOp.program, run_discarded]
    have ends := (Host.getHostResultSummary_ensures platform draws workUnitId plane).run
    cases unsummarised : Host.latestSummary plane workUnitId with
    | some stored =>
      rw [unsummarised] at ends
      rw [ends.2]
      exact .nothing _
    | none =>
      cases last : Host.latestResult plane.db workUnitId with
      | none =>
        simp only [unsummarised, last] at ends
        rw [ends.2]
        exact .nothing _
      | some newest =>
        simp only [unsummarised, last] at ends
        obtain ⟨result, ends, -⟩ := ends
        exact .asked draws workUnitId newest.1 newest.2 result _ unsummarised last ends

end ResultsPlane

end TokenBank
