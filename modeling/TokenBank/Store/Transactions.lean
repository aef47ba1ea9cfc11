import Mathlib.Data.List.Forall2
import Mathlib.Tactic.Basic

/-!
# Clients of a transactional store

A client is a program of single statements: queries, writes, and the statements
that open and close a write transaction. A block is the body of a transaction; an
exception raised by one of its statements abandons the rest.

One turn of a client is the unit that other connections can observe: a single
query, or a whole write transaction from its opening to its commit or rollback.
`run` executes a client alone, statement by statement, on its own connection;
`run_turn` proves that cutting the same execution into turns changes nothing.
-/

namespace Store

/-- A mapped computation succeeds exactly through the computation it maps. -/
theorem map_ok_iff {ε α β : Type} (transform : α → β) (computed : Except ε α) (result : β) :
    computed.map transform = .ok result ↔
      ∃ value, computed = .ok value ∧ transform value = result := by
  cases computed <;> simp [Except.map]

/-- A sequence of computations succeeds exactly through its first one. -/
theorem bind_ok_iff {ε α β : Type} (computed : Except ε α) (rest : α → Except ε β) (result : β) :
    (computed >>= rest) = .ok result ↔ ∃ value, computed = .ok value ∧ rest value = .ok result := by
  cases computed <;> simp [bind, Except.bind]

/-- Computations of all items succeed exactly item by item. -/
theorem mapM_ok_iff {ε α β : Type} (compute : α → Except ε β) (items : List α)
    (results : List β) : items.mapM compute = .ok results ↔
      List.Forall₂ (fun item result => compute item = .ok result) items results := by
  induction items generalizing results with
  | nil => simp [pure, Except.pure, eq_comm]
  | cons item rest inductionHypothesis =>
    simp only [List.mapM_cons, bind_ok_iff, List.forall₂_cons_left_iff, inductionHypothesis]
    constructor
    · rintro ⟨first, computed, others, later, returned⟩
      exact ⟨first, others, computed, later, (Except.ok.inj returned).symm⟩
    · rintro ⟨first, others, computed, later, rfl⟩
      exact ⟨first, computed, others, later, rfl⟩

/-- Go on only under a condition, and raise an exception otherwise. -/
def ensure {ε : Type} (condition : Prop) [Decidable condition] (error : ε) : Except ε Unit :=
  if condition then .ok () else .error error

/-- A check passes exactly under its condition. -/
@[simp] theorem ensure_ok_iff {ε : Type} (condition : Prop) [Decidable condition] (error : ε)
    (value : Unit) : ensure condition error = .ok value ↔ condition := by
  unfold ensure
  split <;> simp_all

/-- The body of a transaction: statements that read the store, statements that
change it and report how many rows they touched, and a final value or exception.
A write may itself raise, as a violated constraint does. -/
inductive Block (σ ε α : Type) : Type
  | done (value : α)
  | raise (error : ε)
  | query (next : σ → Block σ ε α)
  | execute (write : σ → Except ε (σ × Nat)) (next : Nat → Block σ ε α)

namespace Block

variable {σ ε α β : Type}

/-- Run one block and then another that depends on its value. -/
def bind : Block σ ε α → (α → Block σ ε β) → Block σ ε β
  | .done value, rest => rest value
  | .raise error, _ => .raise error
  | .query next, rest => .query (fun store => (next store).bind rest)
  | .execute write next, rest => .execute write (fun rows => (next rows).bind rest)

instance : Monad (Block σ ε) where
  pure := .done
  bind := bind

/-- The body of a transaction started in a store: its value and the changed
store, or the exception that abandons it. -/
def run : Block σ ε α → σ → Except ε (α × σ)
  | .done value, store => .ok (value, store)
  | .raise error, _ => .error error
  | .query next, store => (next store).run store
  | .execute write next, store =>
    match write store with
    | .ok (changed, rows) => (next rows).run changed
    | .error error => .error error

/-- Read a value that may be an exception out of the store. -/
def fetch (read : σ → Except ε α) : Block σ ε α :=
  .query (fun store => match read store with
    | .ok value => .done value
    | .error error => .raise error)

/-- Execute one write, keeping the number of rows it touched. -/
def perform (write : σ → Except ε (σ × Nat)) : Block σ ε Nat := .execute write .done

/-- Execute one write of a statement whose row count is not looked at. -/
def put (write : σ → Except ε σ) : Block σ ε Unit :=
  .execute (fun store => (write store).map (fun changed => (changed, 0))) (fun _ => .done ())

/-- The block ends or writes before it reads anything. -/
def opens : Block σ ε α → Bool
  | .done _ => true
  | .execute _ _ => true
  | _ => false

/-- A returned value changes nothing. -/
@[simp] theorem run_pure_ok (value result : α) (store changed : σ) :
    (pure value : Block σ ε α).run store = .ok (result, changed) ↔
      result = value ∧ changed = store := by
  change Except.ok (value, store) = Except.ok (result, changed) ↔ _
  simp [eq_comm]

/-- A raised exception is never a success. -/
@[simp] theorem run_raise_ok (error : ε) (result : α) (store changed : σ) :
    (Block.raise error : Block σ ε α).run store = .ok (result, changed) ↔ False := by
  simp [run]

/-- A sequence succeeds exactly through a successful first part. -/
@[simp] theorem run_bind_ok (block : Block σ ε α) (rest : α → Block σ ε β) (store changed : σ)
    (result : β) : (block >>= rest).run store = .ok (result, changed) ↔
      ∃ value between, block.run store = .ok (value, between) ∧
        (rest value).run between = .ok (result, changed) := by
  change (block.bind rest).run store = _ ↔ _
  induction block generalizing store with
  | done value => simp [bind, run, and_assoc]
  | raise error => simp [bind, run]
  | query next inductionHypothesis =>
    simp only [bind, run]
    exact inductionHypothesis store store
  | execute write next inductionHypothesis =>
    simp only [bind, run]
    cases written : write store with
    | error error => simp
    | ok outcome =>
      obtain ⟨between, rows⟩ := outcome
      exact inductionHypothesis rows between

/-- A read succeeds with the value read and leaves the store alone. -/
@[simp] theorem run_fetch_ok (read : σ → Except ε α) (result : α) (store changed : σ) :
    (fetch read).run store = .ok (result, changed) ↔
      read store = .ok result ∧ changed = store := by
  cases found : read store <;> simp [fetch, run, found, eq_comm]

/-- A write succeeds with the store and the row count it computes. -/
@[simp] theorem run_perform_ok (write : σ → Except ε (σ × Nat)) (rows : Nat)
    (store changed : σ) : (perform write).run store = .ok (rows, changed) ↔
      write store = .ok (changed, rows) := by
  cases written : write store with
  | error error => simp [perform, run, written]
  | ok outcome => simp [perform, run, written, Prod.ext_iff, and_comm]

/-- A write whose row count is ignored succeeds with the store it computes. -/
@[simp] theorem run_put_ok (write : σ → Except ε σ) (value : Unit) (store changed : σ) :
    (put write).run store = .ok (value, changed) ↔ write store = .ok changed := by
  cases written : write store with
  | error error => simp [put, run, written, Except.map]
  | ok outcome => simp [put, run, written, Except.map]

end Block

/-- A client: statements outside and inside transactions, and a final result. A
write tells its continuation whether it raised, so that a handler can roll back.
Opening a transaction carries the exception raised when one is already open. -/
inductive Client (σ ε α : Type) : Type
  | done (result : Except ε α)
  | query (next : σ → Client σ ε α)
  | execute (write : σ → Except ε (σ × Nat)) (next : Except ε Nat → Client σ ε α)
  | begin (refused : ε) (next : Client σ ε α)
  | commit (next : Client σ ε α)
  | rollback (next : Client σ ε α)

namespace Client

variable {σ ε α β γ : Type}

/-- Run one client and then, if it returned, another that depends on its value. -/
def bind : Client σ ε α → (α → Client σ ε β) → Client σ ε β
  | .done (.ok value), rest => rest value
  | .done (.error error), _ => .done (.error error)
  | .query next, rest => .query (fun store => (next store).bind rest)
  | .execute write next, rest => .execute write (fun rows => (next rows).bind rest)
  | .begin refused next, rest => .begin refused (next.bind rest)
  | .commit next, rest => .commit (next.bind rest)
  | .rollback next, rest => .rollback (next.bind rest)

instance : Monad (Client σ ε) where
  pure value := .done (.ok value)
  bind := bind

/-- Raise an exception outside any transaction. -/
def raise (error : ε) : Client σ ε α := .done (.error error)

/-- One query whose answer may be an exception. -/
def fetch (read : σ → Except ε α) : Client σ ε α := .query (fun store => .done (read store))

/-- Continue with a computed value, or raise the exception computed instead. -/
def ofExcept (computed : Except ε α) : Client σ ε α := .done computed

/-- The statements of a block inside a handler that commits a returned value and
rolls back before an exception propagates. -/
def guarded : Block σ ε α → Client σ ε α
  | .done value => .commit (.done (.ok value))
  | .raise error => .rollback (.done (.error error))
  | .query next => .query (fun store => guarded (next store))
  | .execute write next => .execute write (fun
    | .ok rows => guarded (next rows)
    | .error error => .rollback (.done (.error error)))

/-- A block under an explicitly opened write transaction. -/
def transaction (refused : ε) (block : Block σ ε α) : Client σ ε α :=
  .begin refused (guarded block)

/-- The statements of a block with no handler: the first write opens a
transaction by itself, a returned value commits it, and an exception propagates
with the transaction still open. -/
def implicitly : Block σ ε α → Client σ ε α
  | .done value => .commit (.done (.ok value))
  | .raise error => .done (.error error)
  | .query next => .query (fun store => implicitly (next store))
  | .execute write next => .execute write (fun
    | .ok rows => implicitly (next rows)
    | .error error => .done (.error error))

/-- The client has its result. -/
def finished : Client σ ε α → Bool
  | .done _ => true
  | _ => false

/-- The client's next statement is a query outside any transaction. -/
def reading : Client σ ε α → Bool
  | .query _ => true
  | _ => false

/-- The rest of an open transaction, from its saved and its working store to the
store other connections see once it is closed. A client that stops without
closing leaves the saved store; a nested opening raises and stops. -/
def inside : Client σ ε α → σ → σ → Client σ ε α × σ
  | .done result, saved, _ => (.done result, saved)
  | .query next, saved, working => (next working).inside saved working
  | .execute write next, saved, working =>
    match write working with
    | .ok (changed, rows) => (next (.ok rows)).inside saved changed
    | .error error => (next (.error error)).inside saved working
  | .begin refused _, saved, _ => (.done (.error refused), saved)
  | .commit next, _, working => (next, working)
  | .rollback next, saved, _ => (next, saved)

/-- One turn: a query, or a write transaction from its first statement until it
is closed. Closing with no transaction open has no effect. -/
def turn : Client σ ε α → σ → Client σ ε α × σ
  | .done result, store => (.done result, store)
  | .query next, store => (next store, store)
  | .execute write next, store => (Client.execute write next).inside store store
  | .begin _ next, store => next.inside store store
  | .commit next, store => (next, store)
  | .rollback next, store => (next, store)

/-- A connection: the committed store and, while a transaction is open, its
working copy. -/
structure Connection (σ : Type) where
  committed : σ
  working : Option σ

/-- What the connection's own statements see. -/
def Connection.view (connection : Connection σ) : σ :=
  connection.working.getD connection.committed

/-- A client run alone on its connection, statement by statement. -/
def runOn : Client σ ε α → Connection σ → Except ε α × σ
  | .done result, connection => (result, connection.committed)
  | .query next, connection => (next connection.view).runOn connection
  | .execute write next, connection =>
    match write connection.view with
    | .ok (changed, rows) => (next (.ok rows)).runOn ⟨connection.committed, some changed⟩
    | .error error => (next (.error error)).runOn ⟨connection.committed, some connection.view⟩
  | .begin refused next, connection =>
    match connection.working with
    | some _ => (.error refused, connection.committed)
    | none => next.runOn ⟨connection.committed, some connection.committed⟩
  | .commit next, connection => next.runOn ⟨connection.view, none⟩
  | .rollback next, connection => next.runOn ⟨connection.committed, none⟩

/-- A client run alone from a committed store: its result and the store it
leaves committed. -/
def run (client : Client σ ε α) (store : σ) : Except ε α × σ :=
  client.runOn ⟨store, none⟩

/-- An open transaction followed statement by statement ends as its turn ends,
and the client goes on from the store that turn leaves. -/
theorem runOn_inside (client : Client σ ε α) (saved working : σ) :
    client.runOn ⟨saved, some working⟩ =
      (client.inside saved working).1.run (client.inside saved working).2 := by
  induction client generalizing working with
  | done result => rfl
  | query next inductionHypothesis => exact inductionHypothesis working working
  | execute write next inductionHypothesis =>
    simp only [runOn, inside, Connection.view, Option.getD_some]
    cases written : write working with
    | error error => exact inductionHypothesis (.error error) working
    | ok outcome => exact inductionHypothesis (.ok outcome.2) outcome.1
  | begin refused next => rfl
  | commit next => rfl
  | rollback next => rfl

/-- Cutting an execution after its first turn does not change its result. -/
theorem run_turn (client : Client σ ε α) (store : σ) :
    client.run store = (client.turn store).1.run (client.turn store).2 := by
  cases client with
  | done result => rfl
  | query next => rfl
  | execute write next =>
    simp only [turn, ← runOn_inside]
    simp only [run, runOn, Connection.view, Option.getD_none, Option.getD_some]
  | begin refused next => exact runOn_inside next store store
  | commit next => rfl
  | rollback next => rfl

/-- Taking turns until the client finishes. -/
def turns : Nat → Client σ ε α → σ → Client σ ε α × σ
  | 0, client, store => (client, store)
  | count + 1, client, store => turns count (client.turn store).1 (client.turn store).2

/-- Taking some turns first does not change the result of an execution. -/
theorem run_turns (count : Nat) (client : Client σ ε α) (store : σ) :
    client.run store = (turns count client store).1.run (turns count client store).2 := by
  induction count generalizing client store with
  | zero => rfl
  | succ count inductionHypothesis =>
    rw [run_turn, inductionHypothesis]
    rfl

/-- A finished client leaves the store as it is. -/
theorem run_finished (client : Client σ ε α) (store : σ) (ends : client.finished = true) :
    (client.run store).2 = store := by
  cases client <;> simp_all [finished, run, runOn]

/-- A client left alone finishes after finitely many turns.

Induct on the client. A query hands over to a smaller client; an open
transaction is followed to its closing statement, whose continuation is smaller
than the client that opened it. -/
theorem turns_finish (client : Client σ ε α) :
    (∀ store, ∃ count, (turns count client store).1.finished = true) ∧
      ∀ saved working, ∃ count,
        (turns count (client.inside saved working).1
          (client.inside saved working).2).1.finished = true := by
  induction client with
  | done result => exact ⟨fun store => ⟨0, rfl⟩, fun saved working => ⟨0, rfl⟩⟩
  | query next inductionHypothesis =>
    refine ⟨fun store => ?_, fun saved working => (inductionHypothesis working).2 saved working⟩
    obtain ⟨count, ends⟩ := (inductionHypothesis store).1 store
    exact ⟨count + 1, ends⟩
  | execute write next inductionHypothesis =>
    have within : ∀ saved working, ∃ count,
        (turns count ((Client.execute write next).inside saved working).1
          ((Client.execute write next).inside saved working).2).1.finished = true := by
      intro saved working
      simp only [inside]
      cases written : write working with
      | error error => exact (inductionHypothesis (.error error)).2 saved working
      | ok outcome => exact (inductionHypothesis (.ok outcome.2)).2 saved outcome.1
    refine ⟨fun store => ?_, within⟩
    obtain ⟨count, ends⟩ := within store store
    exact ⟨count + 1, ends⟩
  | begin refused next inductionHypothesis =>
    refine ⟨fun store => ?_, fun saved working => ⟨0, rfl⟩⟩
    obtain ⟨count, ends⟩ := inductionHypothesis.2 store store
    exact ⟨count + 1, ends⟩
  | commit next inductionHypothesis =>
    refine ⟨fun store => ?_, fun saved working => inductionHypothesis.1 working⟩
    obtain ⟨count, ends⟩ := inductionHypothesis.1 store
    exact ⟨count + 1, ends⟩
  | rollback next inductionHypothesis =>
    refine ⟨fun store => ?_, fun saved working => inductionHypothesis.1 saved⟩
    obtain ⟨count, ends⟩ := inductionHypothesis.1 store
    exact ⟨count + 1, ends⟩

/-- Returning the value of a client is neutral. -/
theorem bind_done (client : Client σ ε α) :
    client.bind (fun value => .done (.ok value)) = client := by
  induction client with
  | done result => cases result <;> rfl
  | query next inductionHypothesis => simp only [bind, inductionHypothesis]
  | execute write next inductionHypothesis => simp only [bind, inductionHypothesis]
  | begin refused next inductionHypothesis => simp only [bind, inductionHypothesis]
  | commit next inductionHypothesis => simp only [bind, inductionHypothesis]
  | rollback next inductionHypothesis => simp only [bind, inductionHypothesis]

/-- The grouping of a sequence of clients does not matter. -/
theorem bind_bind (client : Client σ ε α) (rest : α → Client σ ε β) (later : β → Client σ ε γ) :
    (client.bind rest).bind later = client.bind (fun value => (rest value).bind later) := by
  induction client with
  | done result => cases result <;> rfl
  | query next inductionHypothesis => simp only [bind, inductionHypothesis]
  | execute write next inductionHypothesis => simp only [bind, inductionHypothesis]
  | begin refused next inductionHypothesis => simp only [bind, inductionHypothesis]
  | commit next inductionHypothesis => simp only [bind, inductionHypothesis]
  | rollback next inductionHypothesis => simp only [bind, inductionHypothesis]

/-- Client programs compose as expected. -/
instance : LawfulMonad (Client σ ε) :=
  LawfulMonad.mk' (Client σ ε) bind_done (fun _ _ => rfl) bind_bind

/-- A guarded block inside an open transaction commits exactly when its body
succeeds; on any exception the saved store remains. -/
theorem inside_guarded (block : Block σ ε α) (rest : α → Client σ ε β) (saved working : σ) :
    (guarded block >>= rest).inside saved working =
      match block.run working with
      | .ok (value, changed) => (rest value, changed)
      | .error error => (raise error, saved) := by
  change ((guarded block).bind rest).inside saved working = _
  induction block generalizing working with
  | done value => rfl
  | raise error => rfl
  | query next inductionHypothesis => exact inductionHypothesis working working
  | execute write next inductionHypothesis =>
    simp only [guarded, bind, inside, Block.run]
    cases written : write working with
    | error error => rfl
    | ok outcome => exact inductionHypothesis outcome.2 outcome.1

/-- The turn of an explicit transaction: all of its body or nothing of it. -/
theorem turn_transaction (refused : ε) (block : Block σ ε α) (rest : α → Client σ ε β)
    (store : σ) : (transaction refused block >>= rest).turn store =
      match block.run store with
      | .ok (value, changed) => (rest value, changed)
      | .error error => (raise error, store) :=
  inside_guarded block rest store store

/-- A block without a handler, seen from other connections: all of its body, or
nothing while its transaction is left open. -/
theorem inside_implicitly (block : Block σ ε α) (rest : α → Client σ ε β) (saved working : σ) :
    (implicitly block >>= rest).inside saved working =
      match block.run working with
      | .ok (value, changed) => (rest value, changed)
      | .error error => (raise error, saved) := by
  change ((implicitly block).bind rest).inside saved working = _
  induction block generalizing working with
  | done value => rfl
  | raise error => rfl
  | query next inductionHypothesis => exact inductionHypothesis working working
  | execute write next inductionHypothesis =>
    simp only [implicitly, bind, inside, Block.run]
    cases written : write working with
    | error error => rfl
    | ok outcome => exact inductionHypothesis outcome.2 outcome.1

/-- The turn of a block without a handler that does not begin with a query. -/
theorem turn_implicitly (block : Block σ ε α) (rest : α → Client σ ε β) (store : σ)
    (opens : block.opens = true) : (implicitly block >>= rest).turn store =
      match block.run store with
      | .ok (value, changed) => (rest value, changed)
      | .error error => (raise error, store) := by
  cases block with
  | done value => rfl
  | raise error => simp [Block.opens] at opens
  | query next => simp [Block.opens] at opens
  | execute write next =>
    rw [← inside_implicitly (.execute write next) rest store store]
    change ((implicitly (.execute write next)).bind rest).turn store =
      ((implicitly (.execute write next)).bind rest).inside store store
    simp only [implicitly, bind, turn]

end Client

end Store
