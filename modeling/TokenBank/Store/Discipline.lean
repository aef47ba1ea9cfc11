import TokenBank.Store.Interleaving

/-!
# Disciplines of interleaved calls

A discipline is a specification of how calls end, relative to what they saw and
to the store they end in, with the proofs that make it usable: the programs obey
it in every environment that obeys it too. The rules derived from it are
rely-guarantee reasoning with one relation for both sides. Each call may assume
that the store only evolved since it looked, and must itself only evolve it.
-/

namespace Store

variable {ω σ ε α β : Type}

/-- From what it has seen, a client ends as specified whatever sound stores it
meets, as long as each store evolved from those it saw before. It ends right
after a query, or with one write turn. -/
def Complies (sound : σ → Prop) (evolves : σ → σ → Prop)
    (spec : List σ → σ → Except ε α → σ → Prop) : List σ → Client σ ε α → Prop
  | seen, .done result => ∃ store, seen.getLast? = some store ∧ spec seen store result store
  | seen, .query next => ∀ store, sound store → (∀ earlier ∈ seen, evolves earlier store) →
      Complies sound evolves spec (seen ++ [store]) (next store)
  | seen, client => ∀ store, sound store → (∀ earlier ∈ seen, evolves earlier store) →
      ∃ result, (client.turn store).1 = .done result ∧ spec seen store result (client.turn store).2

section Rules

variable {sound : σ → Prop} {evolves : σ → σ → Prop}

/-- A client that reads first complies when it does with every answer, and when
an exception in place of an answer is a specified ending. -/
theorem complies_fetch (spec : List σ → σ → Except ε α → σ → Prop) (seen : List σ)
    (read : σ → Except ε β) (rest : β → Client σ ε α)
    (answered : ∀ store, sound store → (∀ earlier ∈ seen, evolves earlier store) →
      ∀ value, read store = .ok value →
        Complies sound evolves spec (seen ++ [store]) (rest value))
    (failed : ∀ store, sound store → (∀ earlier ∈ seen, evolves earlier store) →
      ∀ error, read store = .error error → spec (seen ++ [store]) store (.error error) store) :
    Complies sound evolves spec seen (Client.fetch read >>= rest) := by
  intro store holds evolved
  change Complies sound evolves spec (seen ++ [store]) ((Client.done (read store)).bind rest)
  cases answer : read store with
  | error error =>
    exact ⟨store, List.getLast?_concat, failed store holds evolved error answer⟩
  | ok value => exact answered store holds evolved value answer

/-- A client that ends in an explicit transaction complies when both the
committed and the rolled-back outcome are specified endings. -/
theorem complies_transaction (spec : List σ → σ → Except ε α → σ → Prop) (seen : List σ)
    (refused : ε) (block : Block σ ε β) (result : β → α)
    (committed : ∀ store, sound store → (∀ earlier ∈ seen, evolves earlier store) →
      ∀ value changed, block.run store = .ok (value, changed) →
        spec seen store (.ok (result value)) changed)
    (abandoned : ∀ store, sound store → (∀ earlier ∈ seen, evolves earlier store) →
      ∀ error, block.run store = .error error → spec seen store (.error error) store) :
    Complies sound evolves spec seen
      (Client.transaction refused block >>= fun value => pure (result value)) := by
  intro store holds evolved
  change ∃ outcome,
    ((Client.transaction refused block >>= fun value => pure (result value)).turn store).1 =
      .done outcome ∧ spec seen store outcome
        ((Client.transaction refused block >>= fun value => pure (result value)).turn store).2
  rw [Client.turn_transaction]
  cases outcome : block.run store with
  | error error => exact ⟨.error error, rfl, abandoned store holds evolved error outcome⟩
  | ok pair =>
    obtain ⟨value, changed⟩ := pair
    exact ⟨.ok (result value), rfl, committed store holds evolved value changed outcome⟩

/-- A client that ends in a block without a handler complies like one that ends in
an explicit transaction. -/
theorem complies_implicitly (spec : List σ → σ → Except ε α → σ → Prop) (seen : List σ)
    (block : Block σ ε β) (result : β → α) (opens : block.opens = true)
    (committed : ∀ store, sound store → (∀ earlier ∈ seen, evolves earlier store) →
      ∀ value changed, block.run store = .ok (value, changed) →
        spec seen store (.ok (result value)) changed)
    (abandoned : ∀ store, sound store → (∀ earlier ∈ seen, evolves earlier store) →
      ∀ error, block.run store = .error error → spec seen store (.error error) store) :
    Complies sound evolves spec seen
      (Client.implicitly block >>= fun value => pure (result value)) := by
  have turned (store : σ) (holds : sound store)
      (evolved : ∀ earlier ∈ seen, evolves earlier store) : ∃ outcome,
      ((Client.implicitly block >>= fun value => pure (result value)).turn store).1 =
        .done outcome ∧ spec seen store outcome
          ((Client.implicitly block >>= fun value => pure (result value)).turn store).2 := by
    rw [Client.turn_implicitly block _ store opens]
    cases outcome : block.run store with
    | error error => exact ⟨.error error, rfl, abandoned store holds evolved error outcome⟩
    | ok pair =>
      obtain ⟨value, changed⟩ := pair
      exact ⟨.ok (result value), rfl, committed store holds evolved value changed outcome⟩
  cases block with
  | done value => exact turned
  | raise error => simp [Block.opens] at opens
  | query next => simp [Block.opens] at opens
  | execute write next =>
    obtain ⟨rest, unfolded⟩ : ∃ rest,
        (Client.implicitly (.execute write next) >>= fun value => pure (result value)) =
          Client.execute write rest := by
      change ∃ rest, (Client.implicitly (.execute write next)).bind _ = Client.execute write rest
      simp only [Client.implicitly, Client.bind]
      exact ⟨_, rfl⟩
    rw [unfolded] at turned ⊢
    exact turned

/-- A client that ends right after a query complies when its result is a
specified ending of what it saw last. -/
theorem complies_done (spec : List σ → σ → Except ε α → σ → Prop) (seen : List σ) (store : σ)
    (result : Except ε α) (ending : spec (seen ++ [store]) store result store) :
    Complies sound evolves spec (seen ++ [store]) (.done result) :=
  ⟨store, List.getLast?_concat, ending⟩

/-- A check between a query and the next statement complies when passing it does,
and when the exception of a failed check is a specified ending. -/
theorem complies_ofExcept (spec : List σ → σ → Except ε α → σ → Prop) (seen : List σ) (store : σ)
    (computed : Except ε β) (rest : β → Client σ ε α)
    (passed : ∀ value, computed = .ok value →
      Complies sound evolves spec (seen ++ [store]) (rest value))
    (failed : ∀ error, computed = .error error →
      spec (seen ++ [store]) store (.error error) store) :
    Complies sound evolves spec (seen ++ [store]) (Client.ofExcept computed >>= rest) := by
  cases outcome : computed with
  | ok value => exact passed value outcome
  | error error => exact complies_done spec seen store (.error error) (failed error outcome)

/-- A compliant client run alone ends as specified, having seen nothing but the
store it was started in. -/
theorem complies_run (spec : List σ → σ → Except ε α → σ → Prop) (store : σ)
    (holds : sound store) (refl : evolves store store) (client : Client σ ε α) (seen : List σ)
    (same : ∀ earlier ∈ seen, earlier = store)
    (complies : Complies sound evolves spec seen client) :
    ∃ looked, (∀ earlier ∈ looked, earlier = store) ∧
      spec looked store (client.run store).1 (client.run store).2 := by
  have evolved (seen : List σ) (same : ∀ earlier ∈ seen, earlier = store) :
      ∀ earlier ∈ seen, evolves earlier store := by
    intro earlier inSeen
    rw [same earlier inSeen]
    exact refl
  have writes (client : Client σ ε α) (seen : List σ) (same : ∀ earlier ∈ seen, earlier = store)
      (turned : ∃ result, (client.turn store).1 = .done result ∧
        spec seen store result (client.turn store).2) :
      ∃ looked, (∀ earlier ∈ looked, earlier = store) ∧
        spec looked store (client.run store).1 (client.run store).2 := by
    obtain ⟨result, ends, ending⟩ := turned
    refine ⟨seen, same, ?_⟩
    rw [Client.run_turn, ends]
    exact ending
  induction client generalizing seen with
  | done result =>
    obtain ⟨last, found, ending⟩ := complies
    have same_store := same last (List.mem_of_getLast? found)
    subst same_store
    exact ⟨seen, same, ending⟩
  | query next inductionHypothesis =>
    have same_after : ∀ earlier ∈ seen ++ [store], earlier = store := by
      intro earlier inSeen
      rcases List.mem_append.mp inSeen with old | new
      · exact same earlier old
      · exact List.mem_singleton.mp new
    exact inductionHypothesis store (seen ++ [store]) same_after
      (complies store holds (evolved seen same))
  | execute write next => exact writes _ seen same (complies store holds (evolved seen same))
  | begin refused next => exact writes _ seen same (complies store holds (evolved seen same))
  | commit next => exact writes _ seen same (complies store holds (evolved seen same))
  | rollback next => exact writes _ seen same (complies store holds (evolved seen same))

/-- A client that complies among some neighbours complies among better ones. -/
theorem complies_mono {stricter : σ → Prop} {tighter : σ → σ → Prop}
    (spec : List σ → σ → Except ε α → σ → Prop)
    (sounder : ∀ store, stricter store → sound store)
    (closer : ∀ before after, tighter before after → evolves before after) (client : Client σ ε α)
    (seen : List σ) (complies : Complies sound evolves spec seen client) :
    Complies stricter tighter spec seen client := by
  have relaxed (store : σ) (seen : List σ) (near : ∀ earlier ∈ seen, tighter earlier store) :
      ∀ earlier ∈ seen, evolves earlier store :=
    fun earlier inSeen => closer earlier store (near earlier inSeen)
  induction client generalizing seen with
  | done result => exact complies
  | query next inductionHypothesis =>
    intro store strict near
    exact inductionHypothesis store _ (complies store (sounder store strict) (relaxed store seen near))
  | execute write next =>
    exact fun store strict near => complies store (sounder store strict) (relaxed store seen near)
  | begin refused next =>
    exact fun store strict near => complies store (sounder store strict) (relaxed store seen near)
  | commit next =>
    exact fun store strict near => complies store (sounder store strict) (relaxed store seen near)
  | rollback next =>
    exact fun store strict near => complies store (sounder store strict) (relaxed store seen near)

end Rules

/-- Programs with a specification they obey among themselves. `sound` describes
stores, `evolves` what may happen to a store over time, and `spec` how a call
ends given what it saw. -/
structure Discipline (ω σ ε α : Type) where
  program : ω → Client σ ε α
  sound : σ → Prop
  evolves : σ → σ → Prop
  spec : ω → List σ → σ → Except ε α → σ → Prop
  refl : ∀ store, evolves store store
  trans : ∀ first second third, evolves first second → evolves second third → evolves first third
  keeps : ∀ op seen store result after, sound store → (∀ earlier ∈ seen, evolves earlier store) →
    spec op seen store result after → sound after ∧ evolves store after
  complies : ∀ op, Complies sound evolves (spec op) [] (program op)

namespace Discipline

variable (discipline : Discipline ω σ ε α)

/-- The same programs under a further property of stores and a further relation
between them in time, both kept by every specified ending. -/
def strengthen (also : σ → Prop) (moreover : σ → σ → Prop) (refl : ∀ store, moreover store store)
    (trans : ∀ first second third, moreover first second → moreover second third →
      moreover first third)
    (keeps : ∀ op seen store result after, discipline.sound store → also store →
      (∀ earlier ∈ seen, moreover earlier store) → discipline.spec op seen store result after →
      also after ∧ moreover store after) : Discipline ω σ ε α where
  program := discipline.program
  sound store := discipline.sound store ∧ also store
  evolves before after := discipline.evolves before after ∧ moreover before after
  spec := discipline.spec
  refl store := ⟨discipline.refl store, refl store⟩
  trans first second third earlier later :=
    ⟨discipline.trans first second third earlier.1 later.1,
      trans first second third earlier.2 later.2⟩
  keeps op seen store result after sound evolved ending := by
    have before := discipline.keeps op seen store result after sound.1
      (fun earlier inSeen => (evolved earlier inSeen).1) ending
    have further := keeps op seen store result after sound.1 sound.2
      (fun earlier inSeen => (evolved earlier inSeen).2) ending
    exact ⟨⟨before.1, further.1⟩, before.2, further.2⟩
  complies op := complies_mono (discipline.spec op) (fun _ strict => strict.1)
    (fun _ _ near => near.1) (discipline.program op) [] (discipline.complies op)

/-- The store is sound, it evolved from everything any call has seen, and each
unfinished call still complies. -/
structure Holds (pool : Pool ω σ ε α) : Prop where
  store : discipline.sound pool.store
  seen : ∀ call ∈ pool.calls, ∀ earlier ∈ call.seen, discipline.evolves earlier pool.store
  calls : ∀ call ∈ pool.calls, call.rest.finished = true ∨
    Complies discipline.sound discipline.evolves (discipline.spec call.op) call.seen call.rest

/-- What one move does to a pool in which the discipline holds. -/
inductive Taken (pool : Pool ω σ ε α) : Move ω → Pool ω σ ε α → Prop
  | nothing (move : Move ω) : Taken pool move pool
  | started (op : ω) :
      Taken pool (.start op) { pool with calls := pool.calls ++ [⟨op, discipline.program op, []⟩] }
  | looked (index : Nat) (call : Call ω σ ε α) (next : Client σ ε α)
      (here : pool.calls[index]? = some call) (reads : call.rest.reading = true)
      (unfinished : next.finished = false)
      (complies : Complies discipline.sound discipline.evolves (discipline.spec call.op)
        (call.seen ++ [pool.store]) next) :
      Taken pool (.turn index)
        { pool with calls := pool.calls.set index ⟨call.op, next, call.seen ++ [pool.store]⟩ }
  | ended (index : Nat) (call : Call ω σ ε α) (result : Except ε α) (after : σ)
      (here : pool.calls[index]? = some call) (unfinished : call.rest.finished = false)
      (quiet : call.rest.reading = true → after = pool.store)
      (ending : discipline.spec call.op (call.seenAfter pool.store) pool.store result after) :
      Taken pool (.turn index)
        { store := after
          calls := pool.calls.set index ⟨call.op, .done result, call.seenAfter pool.store⟩
          replies := pool.replies ++ (result.toOption.map (fun value => (call.op, value))).toList }

/-- A turn of an unfinished compliant call either only looks, or ends as
specified. -/
theorem turn_taken (pool : Pool ω σ ε α) (holds : discipline.Holds pool) (index : Nat)
    (call : Call ω σ ε α) (here : pool.calls[index]? = some call)
    (unfinished : call.rest.finished = false) :
    discipline.Taken pool (.turn index) (pool.move discipline.program (.turn index)) := by
  have member : call ∈ pool.calls := List.mem_of_getElem? here
  have complies := (holds.calls call member).resolve_left (by simp [unfinished])
  have evolved := holds.seen call member
  have write_turn (result : Except ε α) (reads : call.rest.reading = false)
      (ends : (call.rest.turn pool.store).1 = .done result)
      (ending : discipline.spec call.op call.seen pool.store result (call.rest.turn pool.store).2) :
      discipline.Taken pool (.turn index) (pool.move discipline.program (.turn index)) := by
    have seen : call.seenAfter pool.store = call.seen := by simp [Call.seenAfter, reads]
    have taken := Taken.ended index call result (call.rest.turn pool.store).2 here unfinished
      (by simp [reads]) (seen.symm ▸ ending)
    simpa only [Pool.move, here, unfinished, Bool.false_eq_true, if_false, Call.next, ends,
      Call.reply_done] using taken
  obtain ⟨op, rest, seen⟩ := call
  cases rest with
  | done result => simp [Client.finished] at unfinished
  | query next =>
    have complies_next := complies pool.store holds.store evolved
    cases answer : next pool.store with
    | done result =>
      rw [answer] at complies_next
      obtain ⟨store, last, ending⟩ := complies_next
      have same_store : pool.store = store := by simpa using last
      subst same_store
      have taken := Taken.ended index ⟨op, .query next, seen⟩ result pool.store here unfinished
        (fun _ => rfl) ending
      simpa only [Pool.move, here, unfinished, Bool.false_eq_true, if_false, Call.next,
        Client.turn, answer, Call.reply_done] using taken
    | _ =>
      rw [answer] at complies_next
      have taken := Taken.looked index ⟨op, .query next, seen⟩ (next pool.store) here rfl
        (by simp [answer, Client.finished]) (answer ▸ complies_next)
      simpa [Pool.move, here, Client.finished, Call.next, Call.reply, Client.turn, answer,
        Call.seenAfter, Client.reading] using taken
  | execute write next =>
    obtain ⟨result, ends, ending⟩ := complies pool.store holds.store evolved
    exact write_turn result rfl ends ending
  | begin refused next =>
    obtain ⟨result, ends, ending⟩ := complies pool.store holds.store evolved
    exact write_turn result rfl ends ending
  | commit next =>
    obtain ⟨result, ends, ending⟩ := complies pool.store holds.store evolved
    exact write_turn result rfl ends ending
  | rollback next =>
    obtain ⟨result, ends, ending⟩ := complies pool.store holds.store evolved
    exact write_turn result rfl ends ending

/-- Every move of a pool in which the discipline holds is one of the four. -/
theorem move_taken (pool : Pool ω σ ε α) (holds : discipline.Holds pool) (move : Move ω) :
    discipline.Taken pool move (pool.move discipline.program move) := by
  cases move with
  | start op => exact .started op
  | turn index =>
    cases here : pool.calls[index]? with
    | none => simpa [Pool.move, here] using Taken.nothing (.turn index)
    | some call =>
      cases finished : call.rest.finished with
      | true => simpa [Pool.move, here, finished] using Taken.nothing (.turn index)
      | false => exact discipline.turn_taken pool holds index call here finished

/-- The end of a call is what its next turn leaves of it. -/
theorem next_of_ended (pool : Pool ω σ ε α) (index : Nat) (call next : Call ω σ ε α)
    (here : pool.calls[index]? = some call) (unfinished : call.rest.finished = false)
    (moved : (pool.move discipline.program (.turn index)).calls = pool.calls.set index next) :
    call.next pool.store = next := by
  have bound : index < pool.calls.length := (List.getElem?_eq_some_iff.mp here).1
  simp only [Pool.move, here, unfinished, Bool.false_eq_true, if_false] at moved
  have same := congrArg (fun calls => calls[index]?) moved
  simpa [bound] using same

/-- The store also evolved from what a call sees during its next turn. -/
theorem Holds.seenAfter {pool : Pool ω σ ε α} (holds : discipline.Holds pool) (index : Nat)
    (call : Call ω σ ε α) (here : pool.calls[index]? = some call) :
    ∀ earlier ∈ call.seenAfter pool.store, discipline.evolves earlier pool.store := by
  have evolved := holds.seen call (List.mem_of_getElem? here)
  intro earlier inSeen
  unfold Call.seenAfter at inSeen
  split at inSeen
  · rcases List.mem_append.mp inSeen with old | new
    · exact evolved earlier old
    · exact List.mem_singleton.mp new ▸ discipline.refl pool.store
  · exact evolved earlier inSeen

/-- A taken move keeps the discipline. -/
theorem taken_holds (pool next : Pool ω σ ε α) (move : Move ω) (holds : discipline.Holds pool)
    (taken : discipline.Taken pool move next) : discipline.Holds next := by
  cases taken with
  | nothing move => exact holds
  | started op =>
    refine ⟨holds.store, ?_, ?_⟩
    · intro call member
      rcases List.mem_append.mp member with old | new
      · exact holds.seen call old
      · have same_call := List.mem_singleton.mp new
        subst same_call
        simp
    · intro call member
      rcases List.mem_append.mp member with old | new
      · exact holds.calls call old
      · have same_call := List.mem_singleton.mp new
        subst same_call
        exact Or.inr (discipline.complies op)
  | looked index call rest here reads unfinished complies =>
    have evolved := holds.seen call (List.mem_of_getElem? here)
    refine ⟨holds.store, ?_, ?_⟩
    · intro other member
      rcases List.mem_or_eq_of_mem_set member with old | rfl
      · exact holds.seen other old
      · intro earlier inSeen
        rcases List.mem_append.mp inSeen with old | new
        · exact evolved earlier old
        · exact List.mem_singleton.mp new ▸ discipline.refl pool.store
    · intro other member
      rcases List.mem_or_eq_of_mem_set member with old | rfl
      · exact holds.calls other old
      · exact Or.inr complies
  | ended index call result after here unfinished quiet ending =>
    have evolved_after := Holds.seenAfter discipline holds index call here
    obtain ⟨soundAfter, evolves⟩ :=
      discipline.keeps call.op _ pool.store result after holds.store evolved_after ending
    refine ⟨soundAfter, ?_, ?_⟩
    · intro other member earlier inSeen
      rcases List.mem_or_eq_of_mem_set member with old | rfl
      · exact discipline.trans _ _ _ (holds.seen other old earlier inSeen) evolves
      · exact discipline.trans _ _ _ (evolved_after earlier inSeen) evolves
    · intro other member
      rcases List.mem_or_eq_of_mem_set member with old | rfl
      · exact holds.calls other old
      · exact Or.inl rfl

/-- The discipline holds before any call starts, from a sound store. -/
theorem holds_idle (store : σ) (sound : discipline.sound store) :
    discipline.Holds (Pool.idle store) :=
  ⟨sound, by simp [Pool.idle], by simp [Pool.idle]⟩

/-- The discipline holds after every interleaving of calls. -/
theorem holds_run (pool : Pool ω σ ε α) (holds : discipline.Holds pool) (moves : List (Move ω)) :
    discipline.Holds (run (Pool.move discipline.program) pool moves) :=
  run_preserves (Pool.move discipline.program) discipline.Holds pool moves holds
    (fun pool move holds _ =>
      discipline.taken_holds pool _ move holds (discipline.move_taken pool holds move))

/-- To other connections a move is invisible, or it is the end of a call. A call
whose end changed the store ended in a write turn. -/
theorem observed (condition : ω → List σ → σ → Prop) (pool : Pool ω σ ε α)
    (holds : discipline.Holds pool) (move : Move ω) (allowed : pool.AtWrites condition move) :
    ((pool.move discipline.program move).store = pool.store ∧
        (pool.move discipline.program move).replies = pool.replies) ∨
      ∃ op seen result, (∀ earlier ∈ seen, discipline.evolves earlier pool.store) ∧
        discipline.spec op seen pool.store result (pool.move discipline.program move).store ∧
        ((pool.move discipline.program move).store ≠ pool.store → condition op seen pool.store) ∧
        (pool.move discipline.program move).replies =
          pool.replies ++ (result.toOption.map (fun value => (op, value))).toList := by
  have taken := discipline.move_taken pool holds move
  generalize pool.move discipline.program move = next at taken
  cases taken with
  | nothing move => exact Or.inl ⟨rfl, rfl⟩
  | started op => exact Or.inl ⟨rfl, rfl⟩
  | looked index call rest here reads unfinished complies => exact Or.inl ⟨rfl, rfl⟩
  | ended index call result after here unfinished quiet ending =>
    have writing (changed : after ≠ pool.store) :
        condition call.op (call.seenAfter pool.store) pool.store := by
      have writes : call.rest.reading = false := by
        cases reads : call.rest.reading with
        | false => rfl
        | true => exact absurd (quiet reads) changed
      have seen : call.seenAfter pool.store = call.seen := by simp [Call.seenAfter, writes]
      simpa [Pool.AtWrites, here, unfinished, writes, seen] using allowed
    exact Or.inr ⟨call.op, _, result, Holds.seenAfter discipline holds index call here, ending,
      writing, rfl⟩

/-- A property of the store and the replies so far holds after every interleaving
whose writes meet a condition, if each specified ending under the condition
preserves it. -/
theorem invariant_along (property : σ → List (ω × α) → Prop)
    (condition : ω → List σ → σ → Prop) (pool : Pool ω σ ε α) (holds : discipline.Holds pool)
    (initially : property pool.store pool.replies)
    (preserved : ∀ op seen store result after replies, discipline.sound store →
      (∀ earlier ∈ seen, discipline.evolves earlier store) →
      discipline.spec op seen store result after → (after ≠ store → condition op seen store) →
      property store replies →
      property after (replies ++ (result.toOption.map (fun value => (op, value))).toList))
    (moves : List (Move ω))
    (allowed : Along (Pool.move discipline.program) (Pool.AtWrites condition) pool moves) :
    property (run (Pool.move discipline.program) pool moves).store
      (run (Pool.move discipline.program) pool moves).replies := by
  have together := run_invariant (Pool.move discipline.program)
    (fun pool => discipline.Holds pool ∧ property pool.store pool.replies)
    (Pool.AtWrites condition) pool moves ⟨holds, initially⟩ (by
      rintro pool move ⟨holds, property_here⟩ allowed
      refine ⟨discipline.taken_holds pool _ move holds (discipline.move_taken pool holds move), ?_⟩
      rcases discipline.observed condition pool holds move allowed with
        ⟨store, replies⟩ | ⟨op, seen, result, evolved, ending, writing, replies⟩
      · rw [store, replies]
        exact property_here
      · rw [replies]
        exact preserved op seen pool.store result _ pool.replies holds.store evolved ending writing
          property_here) allowed
  exact together.2

/-- The unconditional case: a property of the store and the replies so far that
every specified ending preserves holds after every interleaving. -/
theorem invariant_run (property : σ → List (ω × α) → Prop) (pool : Pool ω σ ε α)
    (holds : discipline.Holds pool) (initially : property pool.store pool.replies)
    (preserved : ∀ op seen store result after replies, discipline.sound store →
      (∀ earlier ∈ seen, discipline.evolves earlier store) →
      discipline.spec op seen store result after → property store replies →
      property after (replies ++ (result.toOption.map (fun value => (op, value))).toList))
    (moves : List (Move ω)) :
    property (run (Pool.move discipline.program) pool moves).store
      (run (Pool.move discipline.program) pool moves).replies :=
  discipline.invariant_along property (fun _ _ _ => True) pool holds initially
    (fun op seen store result after replies sound evolved ending _ =>
      preserved op seen store result after replies sound evolved ending) moves
    (along_of_invariant (Pool.move discipline.program) (fun _ => True) _ pool moves trivial
      (fun pool move _ _ => ⟨trivial, pool.atWrites_trivial move⟩))

/-- A relation between the stores before and after each move holds along every
interleaving whose writes meet a condition, if it relates the stores of each
specified ending under the condition. -/
theorem steps_along (related : σ → σ → Prop) (same : ∀ store, related store store)
    (condition : ω → List σ → σ → Prop) (pool : Pool ω σ ε α) (holds : discipline.Holds pool)
    (relates : ∀ op seen store result after, discipline.sound store →
      (∀ earlier ∈ seen, discipline.evolves earlier store) →
      discipline.spec op seen store result after → (after ≠ store → condition op seen store) →
      related store after)
    (moves : List (Move ω))
    (allowed : Along (Pool.move discipline.program) (Pool.AtWrites condition) pool moves) :
    Along (Pool.move discipline.program)
      (fun pool move => related pool.store (pool.move discipline.program move).store) pool moves := by
  induction moves generalizing pool with
  | nil => trivial
  | cons move rest inductionHypothesis =>
    obtain ⟨here, later⟩ := allowed
    refine ⟨?_, inductionHypothesis _
      (discipline.taken_holds pool _ move holds (discipline.move_taken pool holds move)) later⟩
    rcases discipline.observed condition pool holds move here with
      ⟨store, -⟩ | ⟨op, seen, result, evolved, ending, writing, -⟩
    · rw [store]
      exact same pool.store
    · exact relates op seen pool.store result _ holds.store evolved ending writing

/-- An operation run alone ends as specified, having seen only the store it was
started in. -/
theorem alone (op : ω) (store : σ) (sound : discipline.sound store) :
    ∃ looked, (∀ earlier ∈ looked, earlier = store) ∧
      discipline.spec op looked store ((discipline.program op).run store).1
        ((discipline.program op).run store).2 :=
  complies_run (discipline.spec op) store sound (discipline.refl store) (discipline.program op) []
    (by simp) (discipline.complies op)

end Discipline

end Store
