import TokenBank.Store.Faults

/-!
# Composed clients

What a client does on its connection, put together from what its parts do: a sequence
goes on where its first part returned, an explicit transaction is refused while another
one is open, and otherwise commits what its block computed or leaves the store as it was.
A client of one part of a larger store does to that part what it does alone.
-/

namespace Store

variable {σ τ ε α β : Type}

namespace Client

/-- A sequence goes on from the connection its first part left, unless that raised. -/
theorem finish_bind (client : Client σ ε α) (rest : α → Client σ ε β)
    (connection : Connection σ) : (client >>= rest).finish connection =
      match client.finish connection with
      | (.ok value, left) => (rest value).finish left
      | (.error error, left) => (.error error, left) := by
  change (client.bind rest).finish connection = _
  induction client generalizing connection with
  | done result => cases result <;> rfl
  | query next inductionHypothesis => exact inductionHypothesis _ connection
  | execute write next inductionHypothesis =>
    simp only [bind, finish]
    cases write connection.view with
    | error error => exact inductionHypothesis (.error error) _
    | ok outcome => exact inductionHypothesis (.ok outcome.2) _
  | begin refused next inductionHypothesis =>
    simp only [bind, finish]
    cases connection.working with
    | none => exact inductionHypothesis _
    | some store => rfl
  | commit next inductionHypothesis => exact inductionHypothesis _
  | rollback next inductionHypothesis => exact inductionHypothesis _

/-- The statements of a block under a handler end its transaction either way. -/
theorem finish_guarded (block : Block σ ε α) (saved working : σ) :
    (guarded block).finish ⟨saved, some working⟩ =
      match block.run working with
      | .ok (value, changed) => (.ok value, ⟨changed, none⟩)
      | .error error => (.error error, ⟨saved, none⟩) := by
  induction block generalizing working with
  | done value => rfl
  | raise error => rfl
  | query next inductionHypothesis => exact inductionHypothesis working working
  | execute write next inductionHypothesis =>
    simp only [guarded, finish, Block.run, Connection.view, Option.getD_some]
    cases write working with
    | error error => rfl
    | ok outcome => exact inductionHypothesis outcome.2 outcome.1

/-- An explicit transaction commits what its block computed, or nothing. -/
theorem finish_transaction (refused : ε) (block : Block σ ε α) (store : σ) :
    (transaction refused block).finish ⟨store, none⟩ =
      match block.run store with
      | .ok (value, changed) => (.ok value, ⟨changed, none⟩)
      | .error error => (.error error, ⟨store, none⟩) :=
  finish_guarded block store store

/-- An explicit transaction run alone commits what its block computed, or nothing. -/
theorem run_transaction (refused : ε) (block : Block σ ε α) (store : σ) :
    (transaction refused block).run store =
      match block.run store with
      | .ok (value, changed) => (.ok value, changed)
      | .error error => (.error error, store) := by
  rw [run, runOn_finish, finish_transaction]
  cases block.run store <;> rfl

/-- A single write under no handler commits what it computed, or nothing. -/
theorem run_implicitly_put (write : σ → Except ε σ) (store : σ) :
    (implicitly (Block.put write)).run store =
      match write store with
      | .ok changed => (.ok (), changed)
      | .error error => (.error error, store) := by
  simp only [Block.put, implicitly, run, runOn, Connection.view, Option.getD_none]
  cases write store <;> rfl

end Client

/-- A part of a store that can be read and replaced. -/
structure Part (τ σ : Type) where
  read : τ → σ
  replace : τ → σ → τ
  read_replace : ∀ store part, read (replace store part) = part
  replace_read : ∀ store, replace store (read store) = store
  replace_replace : ∀ store first second, replace (replace store first) second =
    replace store second

namespace Part

variable (part : Part τ σ)

/-- A connection to a part, as a connection to a whole that has it. -/
def lift (whole : τ) (connection : Client.Connection σ) : Client.Connection τ :=
  ⟨part.replace whole connection.committed, connection.working.map (part.replace whole)⟩

/-- An idle connection to a whole is one to its part. -/
theorem lift_idle (whole : τ) : part.lift whole ⟨part.read whole, none⟩ = ⟨whole, none⟩ := by
  rw [lift, part.replace_read]
  rfl

/-- What a lifted connection sees. -/
theorem view_lift (whole : τ) (connection : Client.Connection σ) :
    (part.lift whole connection).view = part.replace whole connection.view := by
  obtain ⟨committed, working⟩ := connection
  cases working <;> rfl

/-- A client of a part does to a whole what it does to the part. -/
theorem finish_on (client : Client σ ε α) (whole : τ) (connection : Client.Connection σ) :
    (client.on part.read part.replace).finish (part.lift whole connection) =
      ((client.finish connection).1, part.lift whole (client.finish connection).2) := by
  induction client generalizing connection with
  | done result => rfl
  | query next inductionHypothesis =>
    simp only [Client.on, Client.finish, view_lift, part.read_replace]
    exact inductionHypothesis _ connection
  | execute write next inductionHypothesis =>
    simp only [Client.on, Client.finish, view_lift, part.read_replace]
    cases write connection.view with
    | error error => exact inductionHypothesis (.error error) ⟨connection.committed, some connection.view⟩
    | ok outcome =>
      simp only [Except.map, part.replace_replace]
      exact inductionHypothesis (.ok outcome.2) ⟨connection.committed, some outcome.1⟩
  | begin refused next inductionHypothesis =>
    obtain ⟨committed, working⟩ := connection
    cases working with
    | none => exact inductionHypothesis ⟨committed, some committed⟩
    | some store => rfl
  | commit next inductionHypothesis =>
    simp only [Client.on, Client.finish, view_lift]
    exact inductionHypothesis ⟨connection.view, none⟩
  | rollback next inductionHypothesis => exact inductionHypothesis ⟨connection.committed, none⟩

/-- Run alone, a client of a part does to a whole what it does to the part. -/
theorem run_on (client : Client σ ε α) (whole : τ) :
    (client.on part.read part.replace).run whole =
      ((client.run (part.read whole)).1, part.replace whole (client.run (part.read whole)).2) := by
  have lifted := part.finish_on client whole ⟨part.read whole, none⟩
  rw [part.lift_idle] at lifted
  simp only [Client.run, Client.runOn_finish, lifted]
  rfl

/-- An open transaction on a part, as one on a whole that has it. -/
theorem inside_on (client : Client σ ε α) (whole : τ) (saved working : σ) :
    (client.on part.read part.replace).inside (part.replace whole saved)
        (part.replace whole working) =
      ((client.inside saved working).1.on part.read part.replace,
        part.replace whole (client.inside saved working).2) := by
  induction client generalizing working with
  | done result => rfl
  | query next inductionHypothesis =>
    simp only [Client.on, Client.inside, part.read_replace]
    exact inductionHypothesis working working
  | execute write next inductionHypothesis =>
    simp only [Client.on, Client.inside, part.read_replace]
    cases write working with
    | error error => exact inductionHypothesis (.error error) working
    | ok outcome =>
      simp only [Except.map, part.replace_replace]
      exact inductionHypothesis (.ok outcome.2) outcome.1
  | begin refused next inductionHypothesis => rfl
  | commit next inductionHypothesis => rfl
  | rollback next inductionHypothesis => rfl

/-- A turn of a client of a part is its turn on the part. -/
theorem turn_on (client : Client σ ε α) (whole : τ) :
    (client.on part.read part.replace).turn whole =
      ((client.turn (part.read whole)).1.on part.read part.replace,
        part.replace whole (client.turn (part.read whole)).2) := by
  have opened := part.inside_on client whole (part.read whole) (part.read whole)
  rw [part.replace_read] at opened
  cases client with
  | done result => simp only [Client.on, Client.turn, part.replace_read]
  | query next => simp only [Client.on, Client.turn, part.replace_read]
  | execute write next => exact opened
  | begin refused next =>
    have within := part.inside_on next whole (part.read whole) (part.read whole)
    rw [part.replace_read] at within
    exact within
  | commit next => simp only [Client.on, Client.turn, part.replace_read]
  | rollback next => simp only [Client.on, Client.turn, part.replace_read]

/-- A finished client of a part is a finished client of the whole. -/
@[simp] theorem finished_on (client : Client σ ε α) :
    (client.on part.read part.replace).finished = client.finished := by
  cases client <;> rfl

end Part

end Store
