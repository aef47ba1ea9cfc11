import TokenBank.Store.Composition

/-!
# Postconditions of clients run alone

A client that runs alone from a store with no transaction open, and leaves none open, is
described by what holds of its result and of the store it leaves. There is one rule for
every way of putting clients together, so that a program is followed statement by statement
and its transactions are entered only through what their blocks compute.
-/

namespace Store

variable {σ τ ε α β : Type}

namespace Client

/-- Run alone, a client leaves no transaction open, and what it returned or raised and the
store it leaves meet a postcondition. -/
def Ensures (client : Client σ ε α) (store : σ) (post : Except ε α → σ → Prop) : Prop :=
  ∃ result left, client.finish ⟨store, none⟩ = (result, ⟨left, none⟩) ∧ post result left

namespace Ensures

/-- What a client ensures holds after it has run. -/
theorem run {client : Client σ ε α} {store : σ} {post : Except ε α → σ → Prop}
    (ensures : Ensures client store post) : post (client.run store).1 (client.run store).2 := by
  obtain ⟨result, left, ends, holds⟩ := ensures
  rw [Client.run, runOn_finish, ends]
  exact holds

/-- What is known of how a client runs is ensured too. -/
theorem ran {client : Client σ ε α} {store left : σ} {post : Except ε α → σ → Prop}
    {result : Except ε α} (ensures : Ensures client store post)
    (runs : client.run store = (result, left)) :
    Ensures client store (fun found after => found = result ∧ after = left ∧ post found after) := by
  obtain ⟨found, after, ends, holds⟩ := ensures
  rw [Client.run, runOn_finish, ends] at runs
  obtain ⟨rfl, rfl⟩ := Prod.mk.inj runs
  exact ⟨found, after, ends, rfl, rfl, holds⟩

/-- A weaker postcondition is ensured too. -/
theorem mono {client : Client σ ε α} {store : σ} {post weaker : Except ε α → σ → Prop}
    (ensures : Ensures client store post)
    (implies : ∀ result left, post result left → weaker result left) :
    Ensures client store weaker := by
  obtain ⟨result, left, ends, holds⟩ := ensures
  exact ⟨result, left, ends, implies result left holds⟩

/-- A sequence ensures what its second part does from where the first one returned, and what
holds where the first one raised. -/
theorem bind {client : Client σ ε α} {rest : α → Client σ ε β} {store : σ}
    {post : Except ε β → σ → Prop}
    (first : Ensures client store (fun result between => match result with
      | .ok value => Ensures (rest value) between post
      | .error error => post (.error error) between)) :
    Ensures (client >>= rest) store post := by
  obtain ⟨result, between, ends, later⟩ := first
  cases result with
  | error error => exact ⟨.error error, between, by rw [finish_bind, ends], later⟩
  | ok value =>
    obtain ⟨last, left, lastEnds, holds⟩ := later
    exact ⟨last, left, by rw [finish_bind, ends]; exact lastEnds, holds⟩

end Ensures

variable {store : σ} {post : Except ε α → σ → Prop}

/-- A client that has its result leaves the store as it is. -/
theorem ensures_done (result : Except ε α) (holds : post result store) :
    Ensures (.done result) store post := ⟨result, store, rfl, holds⟩

/-- A returned value leaves the store as it is. -/
theorem ensures_pure (value : α) (holds : post (.ok value) store) :
    Ensures (pure value) store post := ensures_done (.ok value) holds

/-- A read leaves the store as it is. -/
theorem ensures_fetch (read : σ → Except ε α) (holds : post (read store) store) :
    Ensures (fetch read) store post := ⟨read store, store, rfl, holds⟩

/-- A computed value leaves the store as it is. -/
theorem ensures_ofExcept (computed : Except ε α) (holds : post computed store) :
    Ensures (ofExcept computed) store post := ensures_done computed holds

/-- An explicit transaction leaves what its block computed, or the store as it was. -/
theorem ensures_transaction (refused : ε) (block : Block σ ε α)
    (returned : ∀ value changed, block.run store = .ok (value, changed) → post (.ok value) changed)
    (raised : ∀ error, block.run store = .error error → post (.error error) store) :
    Ensures (transaction refused block) store post := by
  have ends := finish_transaction refused block store
  cases computed : block.run store with
  | error error =>
    rw [computed] at ends
    exact ⟨.error error, store, ends, raised error computed⟩
  | ok outcome =>
    obtain ⟨value, changed⟩ := outcome
    rw [computed] at ends
    exact ⟨.ok value, changed, ends, returned value changed computed⟩

/-- A client of a part ensures of the whole what it ensures of the part. -/
theorem ensures_on (part : Part τ σ) (client : Client σ ε α) (whole : τ)
    {post : Except ε α → τ → Prop} (ensures : Ensures client (part.read whole)
      (fun result left => post result (part.replace whole left))) :
    Ensures (client.on part.read part.replace) whole post := by
  obtain ⟨result, left, ends, holds⟩ := ensures
  refine ⟨result, part.replace whole left, ?_, holds⟩
  have lifted := part.finish_on client whole ⟨part.read whole, none⟩
  rw [part.lift_idle, ends] at lifted
  exact lifted

/-! ## Clients that only read -/

/-- Run alone, a client leaves the store as it is, and its result is known. -/
def Reads (client : Client σ ε α) (store : σ) (result : Except ε α) : Prop :=
  Ensures client store (fun found left => found = result ∧ left = store)

theorem reads_pure (value : α) : Reads (pure value : Client σ ε α) store (.ok value) :=
  ensures_pure value ⟨rfl, rfl⟩

theorem reads_fetch (read : σ → Except ε α) : Reads (fetch read) store (read store) :=
  ensures_fetch read ⟨rfl, rfl⟩

theorem reads_ofExcept (computed : Except ε α) : Reads (ofExcept computed) store computed :=
  ensures_ofExcept computed ⟨rfl, rfl⟩

/-- A sequence of clients that only read has the result of their sequence. -/
theorem Reads.bind {client : Client σ ε α} {rest : α → Client σ ε β} {first : Except ε α}
    {next : α → Except ε β} (reads : Reads client store first)
    (later : ∀ value, Reads (rest value) store (next value)) :
    Reads (client >>= rest) store (first >>= next) := by
  refine Ensures.bind (reads.mono ?_)
  rintro result left ⟨rfl, rfl⟩
  cases result with
  | error error => exact ⟨rfl, rfl⟩
  | ok value => exact later value

/-- A sequence that begins with a client that only reads goes on from its result. -/
theorem Reads.ensures_bind {client : Client σ ε α} {rest : α → Client σ ε β} {first : Except ε α}
    {post : Except ε β → σ → Prop} (reads : Reads client store first)
    (returned : ∀ value, first = .ok value → Ensures (rest value) store post)
    (raised : ∀ error, first = .error error → post (.error error) store) :
    Ensures (client >>= rest) store post := by
  refine Ensures.bind (reads.mono ?_)
  rintro result left ⟨rfl, rfl⟩
  cases result with
  | error error => exact raised error rfl
  | ok value => exact returned value rfl

/-- A sequence goes on with the value that its first client is known to read. -/
theorem Reads.goesOn {client : Client σ ε α} {rest : α → Client σ ε β} {first : Except ε α}
    {post : Except ε β → σ → Prop} (reads : Reads client store first) {value : α}
    (known : first = .ok value) (later : Ensures (rest value) store post) :
    Ensures (client >>= rest) store post := by
  subst known
  refine Ensures.bind (reads.mono ?_)
  rintro result left ⟨rfl, rfl⟩
  exact later

end Client

end Store
