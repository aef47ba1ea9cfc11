import TokenBank.Store.Composition
import TokenBank.Store.Interleaving

/-!
# Calls that write more than once

Between two of its turns, a call that opens one transaction after another meets stores that
other calls have changed. A regime says what holds of every store of a run, and how stores
may evolve. A client abides by it if, whatever stores it meets that evolved from those it met
before, it leaves a sound store that evolved from the one it met, and ends as specified. If
all calls do, every store of every interleaving is sound and evolved from the first one.
-/

namespace Store

variable {ω σ τ ε α β : Type}

/-- The stores a run passes through, what holds of each of them, and how they evolve. -/
structure Regime (σ : Type) where
  passed : σ → Prop
  sound : σ → Prop
  evolves : σ → σ → Prop
  refl : ∀ store, evolves store store
  trans : ∀ first second third, evolves first second → evolves second third → evolves first third

namespace Regime

/-- A store that a client may meet after those it has met. -/
structure Meets (regime : Regime σ) (met : List σ) (store : σ) : Prop where
  passed : regime.passed store
  sound : regime.sound store
  evolved : ∀ earlier ∈ met, regime.evolves earlier store

end Regime

/-- Whatever stores a client meets, each of its turns keeps them sound and evolves them, and
it ends as specified of the stores it met and left. -/
inductive Abides (regime : Regime σ) (post : List σ → Except ε α → Prop) :
    List σ → Client σ ε α → Prop
  | done (met : List σ) (result : Except ε α) (ends : post met result) :
      Abides regime post met (.done result)
  | turn (met : List σ) (client : Client σ ε α) (unfinished : client.finished = false)
      (kept : ∀ store, regime.Meets met store →
        regime.sound (client.turn store).2 ∧ regime.evolves store (client.turn store).2)
      (rest : ∀ store, regime.Meets met store →
        Abides regime post (met ++ [store, (client.turn store).2]) (client.turn store).1) :
      Abides regime post met client

section Rules

variable (regime : Regime σ) (post : List σ → Except ε α → Prop)

variable {regime post}

/-- A client that has its result ends as specified. -/
theorem Abides.ended {met : List σ} {result : Except ε α}
    (abides : Abides regime post met (.done result)) : post met result := by
  cases abides with
  | done _ _ ends => exact ends
  | turn _ _ unfinished => cases unfinished

/-- The next turn of an unfinished client keeps a store sound, evolves it and abides. -/
theorem Abides.turned {met : List σ} {client : Client σ ε α}
    (abides : Abides regime post met client) (unfinished : client.finished = false) (store : σ)
    (meets : regime.Meets met store) :
    regime.sound (client.turn store).2 ∧ regime.evolves store (client.turn store).2 ∧
      Abides regime post (met ++ [store, (client.turn store).2]) (client.turn store).1 := by
  cases abides with
  | done _ _ _ => cases unfinished
  | turn _ _ _ kept rest => exact ⟨(kept store meets).1, (kept store meets).2, rest store meets⟩

variable (regime post)

/-- A query abides when the client does with every answer, and may end where the answer is an
exception. -/
theorem abides_fetch (met : List σ) (read : σ → Except ε β) (rest : β → Client σ ε α)
    (answered : ∀ store, regime.Meets met store → ∀ value, read store = .ok value →
      Abides regime post (met ++ [store, store]) (rest value))
    (failed : ∀ store, regime.Meets met store → ∀ error, read store = .error error →
      post (met ++ [store, store]) (.error error)) :
    Abides regime post met (Client.fetch read >>= rest) := by
  refine .turn met _ rfl (fun store meets => ⟨meets.sound, regime.refl store⟩) ?_
  intro store meets
  change Abides regime post (met ++ [store, store]) ((Client.done (read store)).bind rest)
  cases answer : read store with
  | error error => exact .done _ _ (failed store meets error answer)
  | ok value => exact answered store meets value answer

/-- A check abides when the client does after it passed, and may end where it failed. -/
theorem abides_ofExcept (met : List σ) (computed : Except ε β) (rest : β → Client σ ε α)
    (passed : ∀ value, computed = .ok value → Abides regime post met (rest value))
    (failed : ∀ error, computed = .error error → post met (.error error)) :
    Abides regime post met (Client.ofExcept computed >>= rest) := by
  cases outcome : computed with
  | error error => exact .done _ _ (failed error outcome)
  | ok value => exact passed value outcome

/-- A transaction abides when what its block computes is sound and evolved, the client abides
after it, and it may end where the block raised. -/
theorem abides_transaction (met : List σ) (refused : ε) (block : Block σ ε β)
    (rest : β → Client σ ε α)
    (committed : ∀ store, regime.Meets met store → ∀ value changed,
      block.run store = .ok (value, changed) →
        regime.sound changed ∧ regime.evolves store changed ∧
          Abides regime post (met ++ [store, changed]) (rest value))
    (abandoned : ∀ store, regime.Meets met store → ∀ error, block.run store = .error error →
      post (met ++ [store, store]) (.error error)) :
    Abides regime post met (Client.transaction refused block >>= rest) := by
  refine .turn met _ rfl (fun store meets => ?_) (fun store meets => ?_)
  · rw [Client.turn_transaction]
    cases computed : block.run store with
    | error error => exact ⟨meets.sound, regime.refl store⟩
    | ok outcome =>
      obtain ⟨kept, evolved, -⟩ := committed store meets outcome.1 outcome.2 computed
      exact ⟨kept, evolved⟩
  · rw [Client.turn_transaction]
    cases computed : block.run store with
    | error error => exact .done _ _ (abandoned store meets error computed)
    | ok outcome => exact (committed store meets outcome.1 outcome.2 computed).2.2

/-- A client of a part whose value is replaced by another one abides by a regime that says
nothing of that part.

Induct on the client. A query hands over to a smaller client; an open transaction is followed
to its closing statement, whose continuation is smaller than the client that opened it. -/
theorem abides_on (part : Part σ τ) (client : Client τ ε β) (value : α)
    (framed : ∀ whole left, regime.sound whole →
      regime.sound (part.replace whole left) ∧ regime.evolves whole (part.replace whole left))
    (returned : ∀ met, post met (.ok value)) (failed : ∀ met error, post met (.error error)) :
    (∀ met, Abides regime post met
        ((client >>= fun _ => pure value).on part.read part.replace)) ∧
      ∀ saved working met, Abides regime post met
        (((client >>= fun _ => pure value).inside saved working).1.on part.read part.replace) := by
  have turned (client : Client τ ε α) (unfinished : client.finished = false)
      (later : ∀ store met,
        Abides regime post met ((client.turn store).1.on part.read part.replace)) (met : List σ) :
      Abides regime post met (client.on part.read part.replace) := by
    refine .turn met _ (by rw [part.finished_on, unfinished]) (fun store meets => ?_)
      (fun store _ => ?_)
    · rw [part.turn_on]
      exact framed store _ meets.sound
    · rw [part.turn_on]
      exact later _ _
  let rest : β → Client τ ε α := fun _ => pure value
  change (∀ met, Abides regime post met ((client.bind rest).on part.read part.replace)) ∧
    ∀ saved working met, Abides regime post met
      (((client.bind rest).inside saved working).1.on part.read part.replace)
  induction client with
  | done result =>
    cases result with
    | ok _ => exact ⟨fun met => .done met _ (returned met), fun _ _ met => .done met _ (returned met)⟩
    | error error =>
      exact ⟨fun met => .done met _ (failed met error), fun _ _ met => .done met _ (failed met error)⟩
  | query next inductionHypothesis =>
    exact ⟨turned ((Client.query next).bind rest) rfl (fun store => (inductionHypothesis store).1),
      fun saved working => (inductionHypothesis working).2 saved working⟩
  | execute write next inductionHypothesis =>
    have within (saved working : τ) (met : List σ) : Abides regime post met
        ((((Client.execute write next).bind rest).inside saved working).1.on part.read
          part.replace) := by
      simp only [Client.bind, Client.inside]
      cases write working with
      | error error => exact (inductionHypothesis (.error error)).2 saved working met
      | ok outcome => exact (inductionHypothesis (.ok outcome.2)).2 saved outcome.1 met
    exact ⟨turned ((Client.execute write next).bind rest) rfl (fun store => within store store),
      within⟩
  | begin refused next inductionHypothesis =>
    exact ⟨turned ((Client.begin refused next).bind rest) rfl
        (fun store => inductionHypothesis.2 store store),
      fun _ _ met => .done met _ (failed met _)⟩
  | commit next inductionHypothesis =>
    exact ⟨turned ((Client.commit next).bind rest) rfl (fun _ => inductionHypothesis.1),
      fun _ _ => inductionHypothesis.1⟩
  | rollback next inductionHypothesis =>
    exact ⟨turned ((Client.rollback next).bind rest) rfl (fun _ => inductionHypothesis.1),
      fun _ _ => inductionHypothesis.1⟩

end Rules

namespace Pool

variable (regime : Regime σ) (post : ω → List σ → Except ε α → Prop)

/-- The store of a pool is sound, what is left of every call abides, and every reply is as
specified. -/
structure Abiding (pool : Pool ω σ ε α) : Prop where
  sound : regime.sound pool.store
  calls : ∀ call ∈ pool.calls, ∃ met, (∀ earlier ∈ met, regime.evolves earlier pool.store) ∧
    Abides regime (post call.op) met call.rest
  replies : ∀ reply ∈ pool.replies, ∃ met,
    (∀ earlier ∈ met, regime.evolves earlier pool.store) ∧ post reply.1 met (.ok reply.2)

variable {regime post} {program : ω → Client σ ε α}

/-- No call has been started on a sound store. -/
theorem abiding_idle (store : σ) (sound : regime.sound store) :
    Abiding regime post (idle store : Pool ω σ ε α) :=
  ⟨sound, fun _ member => absurd member List.not_mem_nil,
    fun _ member => absurd member List.not_mem_nil⟩

/-- A move of abiding calls keeps them abiding, and evolves the store. -/
theorem Abiding.moved {pool : Pool ω σ ε α}
    (abides : ∀ op, Abides regime (post op) [] (program op)) (abiding : Abiding regime post pool)
    (passed : regime.passed pool.store) (move : Move ω) :
    Abiding regime post (pool.move program move) ∧
      regime.evolves pool.store (pool.move program move).store := by
  cases move with
  | start op =>
    refine ⟨⟨abiding.sound, ?_, abiding.replies⟩, regime.refl pool.store⟩
    intro call inCalls
    rcases List.mem_append.mp inCalls with old | new
    · exact abiding.calls call old
    · obtain rfl := List.mem_singleton.mp new
      exact ⟨[], fun _ member => absurd member List.not_mem_nil, abides op⟩
  | turn index =>
    cases here : pool.calls[index]? with
    | none =>
      simp only [Pool.move, here]
      exact ⟨abiding, regime.refl pool.store⟩
    | some call =>
      simp only [Pool.move, here]
      split
      · exact ⟨abiding, regime.refl pool.store⟩
      · rename_i unfinished
        obtain ⟨met, evolved, follows⟩ := abiding.calls call (List.mem_of_getElem? here)
        have meets : regime.Meets met pool.store := ⟨passed, abiding.sound, evolved⟩
        obtain ⟨sound, evolves, follows⟩ :=
          follows.turned (by simpa using unfinished) pool.store meets
        have later (earlier : σ) (before : regime.evolves earlier pool.store) :
            regime.evolves earlier (call.rest.turn pool.store).2 :=
          regime.trans _ _ _ before evolves
        have left : ∀ earlier ∈ met ++ [pool.store, (call.rest.turn pool.store).2],
            regime.evolves earlier (call.rest.turn pool.store).2 := by
          intro earlier member
          rcases List.mem_append.mp member with old | new
          · exact later earlier (evolved earlier old)
          · rcases List.mem_cons.mp new with rfl | last
            · exact evolves
            · obtain rfl := List.mem_singleton.mp last
              exact regime.refl _
        refine ⟨⟨sound, ?_, ?_⟩, evolves⟩
        · intro other inSet
          rcases List.mem_or_eq_of_mem_set inSet with old | rfl
          · obtain ⟨others, before, abides⟩ := abiding.calls other old
            exact ⟨others, fun earlier member => later earlier (before earlier member), abides⟩
          · exact ⟨_, left, follows⟩
        · intro reply member
          rcases List.mem_append.mp member with old | new
          · obtain ⟨others, before, specified⟩ := abiding.replies reply old
            exact ⟨others, fun earlier member => later earlier (before earlier member), specified⟩
          · refine ⟨_, left, ?_⟩
            simp only [Call.next, Call.reply, Option.mem_toList] at new
            split at new
            · rename_i value returned
              obtain rfl := Option.some.inj new
              rw [returned] at follows
              exact follows.ended
            · cases new

/-- Abiding calls keep every store of an interleaving sound and evolved from those before. -/
theorem Abiding.run {pool : Pool ω σ ε α}
    (abides : ∀ op, Abides regime (post op) [] (program op)) (abiding : Abiding regime post pool)
    (moves : List (Move ω))
    (passes : ∀ front, front <+: moves → regime.passed (run (move program) pool front).store) :
    Abiding regime post (run (move program) pool moves) ∧
      regime.evolves pool.store (run (move program) pool moves).store := by
  induction moves generalizing pool with
  | nil => exact ⟨abiding, regime.refl pool.store⟩
  | cons first rest inductionHypothesis =>
    obtain ⟨next, evolved⟩ := abiding.moved abides (passes [] List.nil_prefix) first
    obtain ⟨last, further⟩ := inductionHypothesis next (fun front before =>
      passes (first :: front) (List.cons_prefix_cons.mpr ⟨rfl, before⟩))
    exact ⟨last, regime.trans _ _ _ evolved further⟩

end Pool

end Store
