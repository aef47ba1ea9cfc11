import Mathlib.Data.List.InsertIdx
import TokenBank.Store.Runs
import TokenBank.Store.Transactions

/-!
# One connection shared by several handlers

Handlers that share one connection interleave statement by statement. Opening,
committing and rolling back act on the connection, not on the handler that asks for
it: a commit makes permanent whatever any handler has written since the last one, and
a rollback discards it.

A handler keeps count of the writes of its explicit transaction: how many still wait,
how many have become permanent, and how many were discarded. Nothing it executes
depends on these counts. The transaction is whole when none of its writes is
permanent, or all of them are and it has no further statement to execute.
-/

namespace Store

/-- Where a handler stands with its explicit transaction: not yet in it, executing
its statements, or past its closing commit or rollback. -/
inductive Phase : Type
  | outside
  | inside
  | kept
  | abandoned
deriving DecidableEq

/-- A handler: what remains of its program, and the account of its transaction. -/
structure Handler (σ ε α : Type) where
  rest : Client σ ε α
  phase : Phase
  pending : Nat
  committed : Nat
  discarded : Nat

variable {σ ε α : Type}

namespace Handler

/-- A handler that has executed nothing. -/
def start (client : Client σ ε α) : Handler σ ε α := ⟨client, .outside, 0, 0, 0⟩

/-- The handler's next statement is a commit. -/
def commits (handler : Handler σ ε α) : Bool :=
  match handler.rest with
  | .commit _ => true
  | _ => false

/-- The handler's next statement closes whatever transaction is open. -/
def closes (handler : Handler σ ε α) : Bool :=
  match handler.rest with
  | .commit _ => true
  | .rollback _ => true
  | _ => false

/-- The handler goes on with another program. -/
def continues (handler : Handler σ ε α) (rest : Client σ ε α) : Handler σ ε α :=
  { handler with rest := rest }

/-- The handler has executed a write. -/
def wrote (handler : Handler σ ε α) : Handler σ ε α :=
  if handler.phase = .inside then { handler with pending := handler.pending + 1 } else handler

/-- The handler has opened its transaction. -/
def opened (handler : Handler σ ε α) : Handler σ ε α := ⟨handler.rest, .inside, 0, 0, 0⟩

/-- Some handler has committed. -/
def keep (handler : Handler σ ε α) : Handler σ ε α :=
  { handler with pending := 0, committed := handler.committed + handler.pending }

/-- Some handler has rolled back. -/
def discard (handler : Handler σ ε α) : Handler σ ε α :=
  { handler with pending := 0, discarded := handler.discarded + handler.pending }

/-- The handler has left its transaction, if it was in it. -/
def leave (handler : Handler σ ε α) (phase : Phase) : Handler σ ε α :=
  if handler.phase = .inside then { handler with phase := phase } else handler

/-- No write of the transaction is permanent, or all of them are and it is complete. -/
def Whole (handler : Handler σ ε α) : Prop :=
  handler.committed = 0 ∨
    ((handler.phase = .kept ∨ handler.phase = .inside ∧ handler.commits = true) ∧
      handler.discarded = 0 ∧ handler.pending = 0)
  deriving Decidable

/-- Closing the connection's transaction cannot tear this handler's: it is not in one,
or has written nothing since the last close, or has nothing left to do but commit. -/
def Untorn (handler : Handler σ ε α) : Prop :=
  handler.phase = .inside → handler.pending = 0 ∨ handler.commits = true
  deriving Decidable

/-- The account of a transaction that no close has torn. -/
def Sound (handler : Handler σ ε α) : Prop :=
  match handler.phase with
  | .outside => handler.pending = 0 ∧ handler.committed = 0
  | .inside =>
    (handler.committed = 0 ∧ handler.discarded = 0) ∨
      (handler.commits = true ∧ handler.pending = 0 ∧
        (handler.committed = 0 ∨ handler.discarded = 0))
  | .kept => handler.pending = 0 ∧ (handler.committed = 0 ∨ handler.discarded = 0)
  | .abandoned => handler.pending = 0 ∧ handler.committed = 0

/-- A sound account is that of a whole transaction. -/
theorem Sound.whole {handler : Handler σ ε α} (sound : handler.Sound) : handler.Whole := by
  obtain ⟨rest, phase, pending, committed, discarded⟩ := handler
  cases phase with
  | outside => exact .inl sound.2
  | abandoned => exact .inl sound.2
  | kept =>
    obtain ⟨settled, none | undone⟩ := sound
    · exact .inl none
    · exact .inr ⟨.inl rfl, undone, settled⟩
  | inside =>
    rcases sound with fresh | ⟨last, settled, none | undone⟩
    · exact .inl fresh.1
    · exact .inl none
    · exact .inr ⟨.inr ⟨rfl, last⟩, undone, settled⟩

/-- A handler that has executed nothing has a sound account. -/
theorem sound_start (client : Client σ ε α) : (start client).Sound := ⟨rfl, rfl⟩

/-- The account of a freshly opened transaction is sound. -/
theorem sound_opened (handler : Handler σ ε α) (rest : Client σ ε α) :
    (handler.opened.continues rest).Sound := .inl ⟨rfl, rfl⟩

/-- A handler that executes anything but a commit keeps a sound account. -/
theorem Sound.continues {handler : Handler σ ε α} (sound : handler.Sound)
    (goesOn : handler.commits = false) (rest : Client σ ε α) : (handler.continues rest).Sound := by
  obtain ⟨old, phase, pending, committed, discarded⟩ := handler
  cases phase with
  | outside => exact sound
  | abandoned => exact sound
  | kept => exact sound
  | inside =>
    rcases sound with fresh | ⟨last, _⟩
    · exact .inl fresh
    · rw [goesOn] at last
      cases last

/-- A handler that executes a write keeps a sound account. -/
theorem Sound.wrote {handler : Handler σ ε α} (sound : handler.Sound)
    (goesOn : handler.commits = false) : handler.wrote.Sound := by
  obtain ⟨rest, phase, pending, committed, discarded⟩ := handler
  cases phase with
  | outside => exact sound
  | abandoned => exact sound
  | kept => exact sound
  | inside =>
    rcases sound with fresh | ⟨last, _⟩
    · exact .inl fresh
    · rw [goesOn] at last
      cases last

/-- A commit by another handler keeps a sound account that it does not tear. -/
theorem Sound.keep {handler : Handler σ ε α} (sound : handler.Sound) (untorn : handler.Untorn) :
    handler.keep.Sound := by
  obtain ⟨rest, phase, pending, committed, discarded⟩ := handler
  cases phase with
  | outside =>
    obtain ⟨noPending, noCommitted⟩ := sound
    simp only at noPending noCommitted
    exact ⟨rfl, by simp only [Handler.keep]; omega⟩
  | abandoned =>
    obtain ⟨noPending, noCommitted⟩ := sound
    simp only at noPending noCommitted
    exact ⟨rfl, by simp only [Handler.keep]; omega⟩
  | kept =>
    obtain ⟨noPending, settled⟩ := sound
    simp only at noPending settled
    exact ⟨rfl, by simp only [Handler.keep]; omega⟩
  | inside =>
    have allowed := untorn rfl
    simp only at allowed
    rcases sound with ⟨noCommitted, noDiscarded⟩ | ⟨last, noPending, settled⟩
    · simp only at noCommitted noDiscarded
      rcases allowed with noPending | last
      · exact .inl ⟨by simp only [Handler.keep]; omega, noDiscarded⟩
      · exact .inr ⟨last, rfl, .inr noDiscarded⟩
    · simp only at noPending settled
      exact .inr ⟨last, rfl, by simp only [Handler.keep]; omega⟩

/-- A rollback by another handler keeps a sound account that it does not tear. -/
theorem Sound.discard {handler : Handler σ ε α} (sound : handler.Sound)
    (untorn : handler.Untorn) : handler.discard.Sound := by
  obtain ⟨rest, phase, pending, committed, discarded⟩ := handler
  cases phase with
  | outside => exact ⟨rfl, sound.2⟩
  | abandoned => exact ⟨rfl, sound.2⟩
  | kept =>
    obtain ⟨noPending, settled⟩ := sound
    simp only at noPending settled
    exact ⟨rfl, by simp only [Handler.discard]; omega⟩
  | inside =>
    have allowed := untorn rfl
    simp only at allowed
    rcases sound with ⟨noCommitted, noDiscarded⟩ | ⟨last, noPending, settled⟩
    · simp only at noCommitted noDiscarded
      rcases allowed with noPending | last
      · exact .inl ⟨noCommitted, by simp only [Handler.discard]; omega⟩
      · exact .inr ⟨last, rfl, .inl noCommitted⟩
    · simp only at noPending settled
      exact .inr ⟨last, rfl, by simp only [Handler.discard]; omega⟩

/-- A handler's own commit ends its transaction soundly. -/
theorem Sound.commit {handler : Handler σ ε α} (sound : handler.Sound) (rest : Client σ ε α) :
    ((handler.keep.leave .kept).continues rest).Sound := by
  obtain ⟨old, phase, pending, committed, discarded⟩ := handler
  cases phase with
  | outside =>
    obtain ⟨noPending, noCommitted⟩ := sound
    simp only at noPending noCommitted
    exact ⟨rfl, by simp only [Handler.keep, leave, Handler.continues, reduceCtorEq, if_false]; omega⟩
  | abandoned =>
    obtain ⟨noPending, noCommitted⟩ := sound
    simp only at noPending noCommitted
    exact ⟨rfl, by simp only [Handler.keep, leave, Handler.continues, reduceCtorEq, if_false]; omega⟩
  | kept =>
    obtain ⟨noPending, settled⟩ := sound
    simp only at noPending settled
    exact ⟨rfl, by simp only [Handler.keep, leave, Handler.continues, reduceCtorEq, if_false]; omega⟩
  | inside =>
    refine ⟨rfl, ?_⟩
    simp only [Handler.keep, leave, Handler.continues, if_true]
    rcases sound with ⟨noCommitted, noDiscarded⟩ | ⟨last, noPending, settled⟩
    · exact .inr noDiscarded
    · simp only at noPending settled
      omega

/-- A handler's own rollback ends its transaction soundly. -/
theorem Sound.rollback {handler : Handler σ ε α} (sound : handler.Sound)
    (goesOn : handler.commits = false) (rest : Client σ ε α) :
    ((handler.discard.leave .abandoned).continues rest).Sound := by
  obtain ⟨old, phase, pending, committed, discarded⟩ := handler
  cases phase with
  | outside => exact ⟨rfl, sound.2⟩
  | abandoned => exact ⟨rfl, sound.2⟩
  | kept =>
    obtain ⟨noPending, settled⟩ := sound
    simp only at noPending settled
    exact ⟨rfl, by
      simp only [Handler.discard, leave, Handler.continues, reduceCtorEq, if_false]; omega⟩
  | inside =>
    rcases sound with fresh | ⟨last, _⟩
    · exact ⟨rfl, fresh.1⟩
    · rw [goesOn] at last
      cases last

end Handler

/-- A connection and the handlers that share it. -/
structure Shared (σ ε α : Type) where
  connection : Client.Connection σ
  handlers : List (Handler σ ε α)

namespace Shared

/-- Handlers that have executed nothing. -/
def serving (connection : Client.Connection σ) (clients : List (Client σ ε α)) : Shared σ ε α :=
  ⟨connection, clients.map .start⟩

/-- The handler at a position executes its next statement. A finished or absent
handler executes nothing. -/
def step (shared : Shared σ ε α) (index : Nat) : Shared σ ε α :=
  match shared.handlers[index]? with
  | none => shared
  | some handler =>
    let connection := shared.connection
    match handler.rest with
    | .done _ => shared
    | .query next =>
      ⟨connection, shared.handlers.set index (handler.continues (next connection.view))⟩
    | .execute write next =>
      match write connection.view with
      | .ok (changed, rows) =>
        ⟨⟨connection.committed, some changed⟩,
          shared.handlers.set index (handler.wrote.continues (next (.ok rows)))⟩
      | .error error =>
        ⟨⟨connection.committed, some connection.view⟩,
          shared.handlers.set index (handler.continues (next (.error error)))⟩
    | .begin refused next =>
      match connection.working with
      | some _ => ⟨connection, shared.handlers.set index (handler.continues (.raise refused))⟩
      | none =>
        ⟨⟨connection.committed, some connection.committed⟩,
          shared.handlers.set index (handler.opened.continues next)⟩
    | .commit next =>
      ⟨⟨connection.view, none⟩, (shared.handlers.map .keep).set index
        ((handler.keep.leave .kept).continues next)⟩
    | .rollback next =>
      ⟨⟨connection.committed, none⟩, (shared.handlers.map .discard).set index
        ((handler.discard.leave .abandoned).continues next)⟩

/-- The step at a position tears no other handler's transaction. -/
def Spares (shared : Shared σ ε α) (index : Nat) : Prop :=
  (shared.handlers[index]?.any Handler.closes) = true →
    ∀ other ∈ shared.handlers.eraseIdx index, other.Untorn
  deriving Decidable

/-- Every account is sound. -/
def Sound (shared : Shared σ ε α) : Prop := ∀ handler ∈ shared.handlers, handler.Sound

/-- A member of a list with one entry replaced is the replacement or another entry. -/
theorem mem_set_eraseIdx {β : Type} (entries : List β) (index : Nat) (replacement entry : β)
    (member : entry ∈ entries.set index replacement) :
    entry = replacement ∨ entry ∈ entries.eraseIdx index := by
  induction entries generalizing index with
  | nil => cases member
  | cons first rest inductionHypothesis =>
    cases index with
    | zero => exact List.mem_cons.mp member
    | succ index =>
      rcases List.mem_cons.mp member with same | later
      · exact .inr (same ▸ List.mem_cons_self)
      · rcases inductionHypothesis index later with same | other
        · exact .inl same
        · exact .inr (List.mem_cons_of_mem first other)

/-- Replacing one handler by a sound one keeps all accounts sound. -/
theorem Sound.set {shared : Shared σ ε α} (sound : shared.Sound)
    (connection : Client.Connection σ) (index : Nat) (handler : Handler σ ε α)
    (replacement : handler.Sound) :
    (⟨connection, shared.handlers.set index handler⟩ : Shared σ ε α).Sound := by
  intro member inSet
  rcases List.mem_or_eq_of_mem_set inSet with old | same
  · exact sound member old
  · exact same ▸ replacement

/-- Closing the transaction of the connection changes every account, and keeps all
sound that it does not tear. -/
theorem sound_closed (shared : Shared σ ε α) (connection : Client.Connection σ) (index : Nat)
    (close : Handler σ ε α → Handler σ ε α) (handler : Handler σ ε α)
    (others : ∀ other ∈ shared.handlers.eraseIdx index, (close other).Sound)
    (own : handler.Sound) :
    (⟨connection, (shared.handlers.map close).set index handler⟩ : Shared σ ε α).Sound := by
  intro member inSet
  rcases mem_set_eraseIdx _ index handler member inSet with same | other
  · exact same ▸ own
  · rw [List.eraseIdx_map] at other
    obtain ⟨before, inOthers, closed⟩ := List.mem_map.mp other
    exact closed ▸ others before inOthers

/-- Every step that tears nothing keeps all accounts sound. -/
theorem Sound.step {shared : Shared σ ε α} (sound : shared.Sound) (index : Nat)
    (spared : shared.Spares index) : (shared.step index).Sound := by
  cases here : shared.handlers[index]? with
  | none => simpa only [Shared.step, here] using sound
  | some handler =>
    have own : handler.Sound := sound handler (List.mem_of_getElem? here)
    have elsewhere : ∀ other ∈ shared.handlers.eraseIdx index, other.Sound :=
      fun other inOthers => sound other (List.mem_of_mem_eraseIdx inOthers)
    cases program : handler.rest with
    | done result => simpa only [Shared.step, here, program] using sound
    | query next =>
      have goesOn : handler.commits = false := by simp [Handler.commits, program]
      simp only [Shared.step, here, program]
      exact sound.set _ index _ (own.continues goesOn _)
    | execute write next =>
      have goesOn : handler.commits = false := by simp [Handler.commits, program]
      simp only [Shared.step, here, program]
      cases written : write shared.connection.view with
      | ok outcome =>
        have still : handler.wrote.commits = false := by
          simp only [Handler.wrote]
          split <;> exact goesOn
        exact sound.set _ index _ ((own.wrote goesOn).continues still _)
      | error error => exact sound.set _ index _ (own.continues goesOn _)
    | begin refused next =>
      have goesOn : handler.commits = false := by simp [Handler.commits, program]
      simp only [Shared.step, here, program]
      cases working : shared.connection.working with
      | some store => exact sound.set _ index _ (own.continues goesOn _)
      | none => exact sound.set _ index _ (handler.sound_opened next)
    | commit next =>
      have untorn := spared (by simp [here, Handler.closes, program])
      simp only [Shared.step, here, program]
      exact shared.sound_closed _ index .keep _
        (fun other inOthers => (elsewhere other inOthers).keep (untorn other inOthers))
        (own.commit next)
    | rollback next =>
      have goesOn : handler.commits = false := by simp [Handler.commits, program]
      have untorn := spared (by simp [here, Handler.closes, program])
      simp only [Shared.step, here, program]
      exact shared.sound_closed _ index .discard _
        (fun other inOthers => (elsewhere other inOthers).discard (untorn other inOthers))
        (own.rollback goesOn next)

/-- In a run that tears nothing every transaction stays whole, whatever the handlers
execute and whatever is open on the connection to begin with. -/
theorem whole_along (connection : Client.Connection σ) (clients : List (Client σ ε α))
    (moves : List Nat) (spared : Along step Spares (serving connection clients) moves) :
    ∀ handler ∈ (run step (serving connection clients) moves).handlers, handler.Whole := by
  have initially : (serving connection clients).Sound := by
    intro handler member
    obtain ⟨client, _, started⟩ := List.mem_map.mp member
    exact started ▸ Handler.sound_start client
  have sound := run_invariant step Sound Spares (serving connection clients) moves initially
    (fun shared index before allowed => before.step index allowed) spared
  intro handler member
  exact (sound handler member).whole

/-- A commit tears every transaction it does not spare: with writes that became
permanent and others still to come, the transaction is not whole. -/
theorem torn_of_commit (shared : Shared σ ε α) (index : Nat) (handler other : Handler σ ε α)
    (here : shared.handlers[index]? = some handler) (commits : handler.commits = true)
    (elsewhere : other ∈ shared.handlers.eraseIdx index) (exposed : ¬ other.Untorn) :
    other.keep ∈ (shared.step index).handlers ∧ ¬ other.keep.Whole := by
  obtain ⟨within, exposed⟩ := Classical.not_imp.mp exposed
  obtain ⟨written, goesOn⟩ := not_or.mp exposed
  constructor
  · cases program : handler.rest with
    | commit next =>
      simp only [Shared.step, here, program]
      obtain ⟨position, bound, apart, found⟩ := List.mem_eraseIdx_iff_getElem.mp elsewhere
      rw [List.mem_iff_getElem]
      refine ⟨position, by simpa using bound, ?_⟩
      rw [List.getElem_set_ne (Ne.symm apart), List.getElem_map, found]
    | _ => simp [Handler.commits, program] at commits
  · simp only [Handler.Whole, Handler.keep, within, not_or, not_and]
    refine ⟨by omega, ?_⟩
    rintro (kept | ⟨_, last⟩)
    · cases kept
    · exact absurd last goesOn

end Shared

end Store
