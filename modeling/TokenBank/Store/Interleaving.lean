import TokenBank.Store.Runs
import TokenBank.Store.Transactions

/-!
# Interleaved calls on one store

A pool holds the committed store and every call started so far, each on a
connection of its own. A move starts a call or gives one call a turn, so a list
of moves is one interleaving. Next to what is left of its program, a call carries
the stores its queries looked at; nothing it executes depends on that record,
which only lets a specification speak of what the call has seen.
-/

namespace Store

/-- A call in progress: the operation it was started for, what remains of its
program, and the stores its queries saw, in order. -/
structure Call (ω σ ε α : Type) where
  op : ω
  rest : Client σ ε α
  seen : List σ

/-- The committed store, the calls, and what calls returned, in the order in
which they returned. -/
structure Pool (ω σ ε α : Type) where
  store : σ
  calls : List (Call ω σ ε α)
  replies : List (ω × α)

/-- Start a call, or give the call at a position one turn. -/
inductive Move (ω : Type) : Type
  | start (op : ω)
  | turn (index : Nat)
deriving DecidableEq

variable {ω σ ε α β : Type}

namespace Call

/-- The stores the call has seen once it has taken its next turn. -/
def seenAfter (call : Call ω σ ε α) (store : σ) : List σ :=
  if call.rest.reading then call.seen ++ [store] else call.seen

/-- What the call returned, if it has returned. -/
def reply (call : Call ω σ ε α) : Option (ω × α) :=
  match call.rest with
  | .done (.ok value) => some (call.op, value)
  | _ => none

/-- A finished call has returned its value, unless it raised. -/
@[simp] theorem reply_done (op : ω) (result : Except ε α) (seen : List σ) :
    (⟨op, .done result, seen⟩ : Call ω σ ε α).reply =
      result.toOption.map (fun value => (op, value)) := by
  cases result <;> rfl

/-- The call after its next turn from a store. -/
def next (call : Call ω σ ε α) (store : σ) : Call ω σ ε α :=
  ⟨call.op, (call.rest.turn store).1, call.seenAfter store⟩

end Call

namespace Pool

/-- No call has been started. -/
def idle (store : σ) : Pool ω σ ε α := ⟨store, [], []⟩

/-- One move. A turn of a finished or absent call changes nothing. -/
def move (program : ω → Client σ ε α) (pool : Pool ω σ ε α) : Move ω → Pool ω σ ε α
  | .start op => { pool with calls := pool.calls ++ [⟨op, program op, []⟩] }
  | .turn index =>
    match pool.calls[index]? with
    | none => pool
    | some call =>
      if call.rest.finished then pool
      else
        { store := (call.rest.turn pool.store).2
          calls := pool.calls.set index (call.next pool.store)
          replies := pool.replies ++ (call.next pool.store).reply.toList }

/-- A turn in which a call writes meets a condition on the call and on the store
it finds. Every other move meets it trivially. -/
def AtWrites (condition : ω → List σ → σ → Prop) (pool : Pool ω σ ε α) : Move ω → Prop
  | .start _ => True
  | .turn index =>
    match pool.calls[index]? with
    | none => True
    | some call => call.rest.finished = true ∨ call.rest.reading = true ∨
        condition call.op call.seen pool.store

/-- Every move meets the trivial condition. -/
theorem atWrites_trivial (pool : Pool ω σ ε α) (move : Move ω) :
    pool.AtWrites (fun _ _ _ => True) move := by
  cases move with
  | start op => trivial
  | turn index =>
    simp only [AtWrites]
    split <;> simp

instance (condition : ω → List σ → σ → Prop)
    [∀ op seen store, Decidable (condition op seen store)] (pool : Pool ω σ ε α) :
    (move : Move ω) → Decidable (pool.AtWrites condition move)
  | .start _ => .isTrue trivial
  | .turn index =>
    match here : pool.calls[index]? with
    | none => .isTrue (by simp [AtWrites, here])
    | some call => decidable_of_iff (call.rest.finished = true ∨ call.rest.reading = true ∨
        condition call.op call.seen pool.store) (by simp [AtWrites, here])

/-- A condition on operations holds of every write if it holds of every operation
that is started. -/
theorem along_started (program : ω → Client σ ε α) (allowed : ω → Prop) (store : σ)
    (moves : List (Move ω)) (started : ∀ op, .start op ∈ moves → allowed op) :
    Along (move program) (AtWrites (fun op _ _ => allowed op)) (idle store) moves := by
  apply along_of_invariant (move program) (fun pool => ∀ call ∈ pool.calls, allowed call.op) _
    (idle store) moves (by simp [idle])
  intro pool moved holds member
  cases moved with
  | start op =>
    refine ⟨?_, trivial⟩
    intro call inCalls
    rcases List.mem_append.mp inCalls with old | new
    · exact holds call old
    · have same_call := List.mem_singleton.mp new
      subst same_call
      exact started op member
  | turn index =>
    cases here : pool.calls[index]? with
    | none => simpa [move, AtWrites, here] using holds
    | some call =>
      have inCalls := List.mem_of_getElem? here
      constructor
      · cases ended : call.rest.finished with
        | true => simpa [move, here, ended] using holds
        | false =>
          simp only [move, here, ended, Bool.false_eq_true, if_false]
          intro other inSet
          rcases List.mem_or_eq_of_mem_set inSet with old | same
          · exact holds other old
          · exact same ▸ holds call inCalls
      · simp only [AtWrites, here]
        exact Or.inr (Or.inr (holds call inCalls))

/-- Giving one call several turns takes the same turns of its client. -/
theorem run_turns (program : ω → Client σ ε α) (pool : Pool ω σ ε α) (index count : Nat)
    (call : Call ω σ ε α) (here : pool.calls[index]? = some call) :
    (run (move program) pool (List.replicate count (.turn index))).store =
      (Client.turns count call.rest pool.store).2 := by
  induction count generalizing pool call with
  | zero => rfl
  | succ count inductionHypothesis =>
    rw [List.replicate_succ, run_cons]
    cases ended : call.rest.finished with
    | true =>
      have stays : pool.move program (.turn index) = pool := by simp [move, here, ended]
      have idles : call.rest.turn pool.store = (call.rest, pool.store) := by
        cases rest : call.rest <;> simp_all [Client.finished, Client.turn]
      rw [stays, inductionHypothesis pool call here]
      simp only [Client.turns, idles]
    | false =>
      have moved : pool.move program (.turn index) =
          { store := (call.rest.turn pool.store).2
            calls := pool.calls.set index (call.next pool.store)
            replies := pool.replies ++ (call.next pool.store).reply.toList } := by
        simp [move, here, ended]
      have bound : index < pool.calls.length := (List.getElem?_eq_some_iff.mp here).1
      rw [moved, inductionHypothesis _ (call.next pool.store) (by simp [bound])]
      rfl

/-- Running one more call alone is one way to go on from any interleaving. -/
theorem alone_reached (program : ω → Client σ ε α) (pool : Pool ω σ ε α) (op : ω) :
    ∃ moves, (run (move program) pool moves).store = ((program op).run pool.store).2 := by
  obtain ⟨count, ends⟩ := (Client.turns_finish (program op)).1 pool.store
  refine ⟨.start op :: List.replicate count (.turn pool.calls.length), ?_⟩
  rw [run_cons, run_turns program _ pool.calls.length count ⟨op, program op, []⟩ (by simp [move]),
    Client.run_turns count, Client.run_finished _ _ ends]
  rfl

end Pool

end Store
