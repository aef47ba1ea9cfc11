import TokenBank.Store.Transactions

/-!
# Statements that raise

Any statement may raise an exception of its own instead of having its effect. A
client under such faults is a client again: outside a transaction the exception
propagates, and inside an explicit one it reaches the handler, which rolls back.

A client is all or nothing when it only reads before its one explicit transaction
and ends with it. Whatever statement of such a client raises, it leaves its
connection exactly as it found it: what is committed, and whether a transaction is
open and what that one has written.
-/

namespace Store

variable {σ τ ε α β : Type}

/-- The exception of a computation that raised one. -/
def raised : Except ε α → Option ε
  | .error error => some error
  | .ok _ => none

/-- A computation has an exception exactly when it raised it. -/
theorem raised_some_iff (computed : Except ε α) (error : ε) :
    raised computed = some error ↔ computed = .error error := by
  cases computed <;> simp [raised]

namespace Client

/-- A client run to its end on its connection: its result, and the connection it
leaves. -/
def finish : Client σ ε α → Connection σ → Except ε α × Connection σ
  | .done result, connection => (result, connection)
  | .query next, connection => (next connection.view).finish connection
  | .execute write next, connection =>
    match write connection.view with
    | .ok (changed, rows) => (next (.ok rows)).finish ⟨connection.committed, some changed⟩
    | .error error => (next (.error error)).finish ⟨connection.committed, some connection.view⟩
  | .begin refused next, connection =>
    match connection.working with
    | some _ => (.error refused, connection)
    | none => next.finish ⟨connection.committed, some connection.committed⟩
  | .commit next, connection => next.finish ⟨connection.view, none⟩
  | .rollback next, connection => next.finish ⟨connection.committed, none⟩

/-- What other connections see of a finished client is what `runOn` computes. -/
theorem runOn_finish (client : Client σ ε α) (connection : Connection σ) :
    client.runOn connection =
      ((client.finish connection).1, (client.finish connection).2.committed) := by
  induction client generalizing connection with
  | done result => rfl
  | query next inductionHypothesis => exact inductionHypothesis _ connection
  | execute write next inductionHypothesis =>
    simp only [runOn, finish]
    cases written : write connection.view with
    | error error => exact inductionHypothesis (.error error) _
    | ok outcome => exact inductionHypothesis (.ok outcome.2) _
  | begin refused next inductionHypothesis =>
    simp only [runOn, finish]
    cases working : connection.working with
    | none => exact inductionHypothesis _
    | some store => rfl
  | commit next inductionHypothesis => exact inductionHypothesis _
  | rollback next inductionHypothesis => exact inductionHypothesis _

/-- The client under faults: `fault` tells for every statement, counted from the
first one, whether it raises. `opened` tells whether the client is inside the
explicit transaction whose handler rolls back. -/
def faulted (fault : Nat → Option ε) : Bool → Nat → Client σ ε α → Client σ ε α
  | _, _, .done result => .done result
  | opened, position, .query next =>
    match fault position with
    | none => .query (fun store => faulted fault opened (position + 1) (next store))
    | some error =>
      if opened then .rollback (.done (.error error)) else .done (.error error)
  | opened, position, .execute write next =>
    match fault position with
    | none => .execute write (fun rows => faulted fault opened (position + 1) (next rows))
    | some error => faulted fault opened (position + 1) (next (.error error))
  | _, position, .begin refused next =>
    match fault position with
    | none => .begin refused (faulted fault true (position + 1) next)
    | some error => .done (.error error)
  | _, position, .commit next => .commit (faulted fault false (position + 1) next)
  | _, position, .rollback next => .rollback (faulted fault false (position + 1) next)

/-- The rest of an explicit transaction: it commits and returns, or it rolls back
and raises. -/
inductive Guarded : Client σ ε α → Prop
  | commit (value : α) : Guarded (.commit (.done (.ok value)))
  | rollback (error : ε) : Guarded (.rollback (.done (.error error)))
  | query (next : σ → Client σ ε α) (answered : ∀ store, Guarded (next store)) :
      Guarded (.query next)
  | execute (write : σ → Except ε (σ × Nat)) (next : Except ε Nat → Client σ ε α)
      (continued : ∀ outcome, Guarded (next outcome)) : Guarded (.execute write next)

/-- A client that reads, and then ends or runs one guarded transaction. -/
inductive AllOrNothing : Client σ ε α → Prop
  | done (result : Except ε α) : AllOrNothing (.done result)
  | query (next : σ → Client σ ε α) (answered : ∀ store, AllOrNothing (next store)) :
      AllOrNothing (.query next)
  | transaction (refused : ε) (body : Client σ ε α) (guarded : Guarded body) :
      AllOrNothing (.begin refused body)

/-- A guarded transaction that raises under faults has rolled back everything. -/
theorem Guarded.finish_error {client : Client σ ε α} (guarded : Guarded client)
    (fault : Nat → Option ε) (position : Nat) (saved working : σ) (error : ε)
    (left : Connection σ)
    (raised : (client.faulted fault true position).finish ⟨saved, some working⟩ =
      (.error error, left)) : left = ⟨saved, none⟩ := by
  induction guarded generalizing position working with
  | commit value =>
    have returned := congrArg Prod.fst raised
    cases returned
  | rollback first => exact (congrArg Prod.snd raised).symm
  | query next answered inductionHypothesis =>
    simp only [faulted] at raised
    split at raised
    · exact inductionHypothesis working (position + 1) working raised
    · exact (congrArg Prod.snd raised).symm
  | execute write next continued inductionHypothesis =>
    simp only [faulted] at raised
    split at raised
    · simp only [finish, Connection.view, Option.getD_some] at raised
      split at raised
      · exact inductionHypothesis _ (position + 1) _ raised
      · exact inductionHypothesis _ (position + 1) _ raised
    · exact inductionHypothesis _ (position + 1) working raised

/-- A client that is all or nothing leaves its connection as it found it whenever
it raises, whatever statements raised. -/
theorem AllOrNothing.finish_error {client : Client σ ε α} (whole : AllOrNothing client)
    (fault : Nat → Option ε) (position : Nat) (connection : Connection σ) (error : ε)
    (left : Connection σ)
    (raised : (client.faulted fault false position).finish connection = (.error error, left)) :
    left = connection := by
  induction whole generalizing position with
  | done result => exact (congrArg Prod.snd raised).symm
  | query next answered inductionHypothesis =>
    simp only [faulted] at raised
    split at raised
    · exact inductionHypothesis connection.view (position + 1) raised
    · exact (congrArg Prod.snd raised).symm
  | transaction refused body guarded =>
    simp only [faulted] at raised
    split at raised
    · obtain ⟨committed, working⟩ := connection
      cases working with
      | some store => exact (congrArg Prod.snd raised).symm
      | none => exact guarded.finish_error fault (position + 1) committed committed error left raised
    · exact (congrArg Prod.snd raised).symm

/-- A client that reads first is all or nothing when it is so with every answer. -/
theorem allOrNothing_fetch (read : σ → Except ε β) (rest : β → Client σ ε α)
    (answered : ∀ value, AllOrNothing (rest value)) : AllOrNothing (fetch read >>= rest) := by
  apply AllOrNothing.query
  intro store
  change AllOrNothing ((Client.done (read store)).bind rest)
  cases read store with
  | error error => exact .done (.error error)
  | ok value => exact answered value

/-- A check before an all-or-nothing client does not change it. -/
theorem allOrNothing_ofExcept (computed : Except ε β) (rest : β → Client σ ε α)
    (passed : ∀ value, AllOrNothing (rest value)) : AllOrNothing (ofExcept computed >>= rest) := by
  cases computed with
  | error error => exact .done (.error error)
  | ok value => exact passed value

/-- The statements of a block inside its handler are guarded. -/
theorem guarded_block (block : Block σ ε β) (result : β → α) :
    Guarded (guarded block >>= fun value => pure (result value)) := by
  change Guarded ((guarded block).bind fun value => .done (.ok (result value)))
  induction block with
  | done value => exact .commit (result value)
  | raise error => exact .rollback error
  | query next inductionHypothesis => exact .query _ inductionHypothesis
  | execute write next inductionHypothesis =>
    simp only [guarded, bind]
    apply Guarded.execute
    intro outcome
    cases outcome with
    | error error => exact .rollback error
    | ok rows => exact inductionHypothesis rows

/-- An explicit transaction is all or nothing. -/
theorem allOrNothing_transaction (refused : ε) (block : Block σ ε β) (result : β → α) :
    AllOrNothing (transaction refused block >>= fun value => pure (result value)) :=
  .transaction refused _ (guarded_block block result)

/-! ## Clients of a part of a store -/

/-- A client of one part of a larger store, which leaves the rest alone. -/
def on (part : τ → σ) (replace : τ → σ → τ) : Client σ ε α → Client τ ε α
  | .done result => .done result
  | .query next => .query (fun store => on part replace (next (part store)))
  | .execute write next => .execute (fun store => (write (part store)).map (fun outcome =>
      (replace store outcome.1, outcome.2))) (fun rows => on part replace (next rows))
  | .begin refused next => .begin refused (on part replace next)
  | .commit next => .commit (on part replace next)
  | .rollback next => .rollback (on part replace next)

/-- A guarded client of a part is a guarded client of the whole. -/
theorem Guarded.on {client : Client σ ε α} (guarded : Guarded client) (part : τ → σ)
    (replace : τ → σ → τ) : Guarded (client.on part replace) := by
  induction guarded with
  | commit value => exact .commit value
  | rollback error => exact .rollback error
  | query next answered inductionHypothesis =>
    exact .query _ (fun store => inductionHypothesis (part store))
  | execute write next continued inductionHypothesis => exact .execute _ _ inductionHypothesis

/-- A client of a part that is all or nothing is so on the whole. -/
theorem AllOrNothing.on {client : Client σ ε α} (whole : AllOrNothing client) (part : τ → σ)
    (replace : τ → σ → τ) : AllOrNothing (client.on part replace) := by
  induction whole with
  | done result => exact .done result
  | query next answered inductionHypothesis =>
    exact .query _ (fun store => inductionHypothesis (part store))
  | transaction refused body guarded => exact .transaction refused _ (guarded.on part replace)

end Client

end Store
