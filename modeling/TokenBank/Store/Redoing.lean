import TokenBank.Store.Transactions

/-!
# Doing steps again

Steps are executed in order, each of them for good, up to the first that fails. Some steps may be
repeated: once executed they have no effect any more, whatever happens in between. The others are
refused once they are executed. So a list of steps that was interrupted is completed by executing
all of it again exactly if each step that was executed may be repeated.
-/

namespace Store

universe u v w

variable {S σ ε : Type} (execute : S → σ → Except ε σ)

/-- Execute the steps in order, up to the first that fails. -/
def executeAll : List S → σ → Except ε σ
  | [], store => .ok store
  | step :: rest, store => execute step store >>= executeAll rest

/-- What a step leaves behind stays, and tells that it was executed: a step that may be repeated has
no effect then, and the others are refused. -/
structure Redoable (left : S → σ → Prop) (repeatable : S → Prop) : Prop where
  leaves : ∀ step store after, execute step store = .ok after → left step after
  keeps : ∀ step other store after, left step store → execute other store = .ok after →
    left step after
  repeats : ∀ step store, left step store → repeatable step → execute step store = .ok store
  refuses : ∀ step store, left step store → ¬repeatable step →
    ∃ error, execute step store = .error error

/-- Two lists of steps are executed one after the other. -/
theorem executeAll_append (done rest : List S) (store final : σ) :
    executeAll execute (done ++ rest) store = .ok final ↔
      ∃ stopped, executeAll execute done store = .ok stopped ∧
        executeAll execute rest stopped = .ok final := by
  induction done generalizing store with
  | nil => simp [executeAll]
  | cons step done inductionHypothesis =>
    simp only [List.cons_append, executeAll, bind_ok_iff, inductionHypothesis]
    constructor
    · rintro ⟨between, first, stopped, before, after⟩
      exact ⟨stopped, ⟨between, first, before⟩, after⟩
    · rintro ⟨stopped, ⟨between, first, before⟩, after⟩
      exact ⟨between, first, stopped, before, after⟩

/-- Whatever every step keeps is kept by executing several. -/
theorem executeAll_keeps (property : σ → Prop)
    (kept : ∀ step store after, property store → execute step store = .ok after → property after)
    (steps : List S) (store after : σ) (holds : property store)
    (executed : executeAll execute steps store = .ok after) : property after := by
  induction steps generalizing store with
  | nil =>
    cases executed
    exact holds
  | cons step rest inductionHypothesis =>
    obtain ⟨between, first, later⟩ := (bind_ok_iff _ _ _).mp executed
    exact inductionHypothesis between (kept step store between holds first) later

/-- Steps without an effect have none one after the other. -/
theorem executeAll_settled (steps : List S) (store : σ)
    (settled : ∀ step ∈ steps, execute step store = .ok store) :
    executeAll execute steps store = .ok store := by
  induction steps with
  | nil => rfl
  | cons step rest inductionHypothesis =>
    exact (bind_ok_iff _ _ _).mpr ⟨store, settled step List.mem_cons_self,
      inductionHypothesis fun other later => settled other (List.mem_cons_of_mem _ later)⟩

variable {execute} {left : S → σ → Prop} {repeatable : S → Prop}

/-- What each of some steps left behind is there after them. -/
theorem Redoable.executed (rules : Redoable execute left repeatable) (steps : List S)
    (store after : σ) (executed : executeAll execute steps store = .ok after) (step : S)
    (member : step ∈ steps) : left step after := by
  induction steps generalizing store with
  | nil => cases member
  | cons first rest inductionHypothesis =>
    obtain ⟨between, here, later⟩ := (bind_ok_iff _ _ _).mp executed
    rcases List.mem_cons.mp member with rfl | listed
    · exact executeAll_keeps execute (left step)
        (fun other store after => rules.keeps step other store after) rest between after
        (rules.leaves step store between here) later
    · exact inductionHypothesis between later listed

/-- Steps that were interrupted are completed by executing all of them again exactly if those that
were executed may be repeated: these have no effect, and one that may not is refused. -/
theorem Redoable.completes_iff (rules : Redoable execute left repeatable) (done rest : List S)
    (store stopped final : σ) (before : executeAll execute done store = .ok stopped)
    (after : executeAll execute rest stopped = .ok final) :
    executeAll execute (done ++ rest) stopped = .ok final ↔ ∀ step ∈ done, repeatable step := by
  have left_behind := rules.executed done store stopped before
  rw [executeAll_append]
  constructor
  · rintro ⟨between, again, -⟩ step member
    by_contra once
    obtain ⟨front, back, rfl⟩ := List.append_of_mem member
    obtain ⟨middle, earlier, later⟩ := (executeAll_append execute _ _ _ _).mp again
    have still_left := executeAll_keeps execute (left step)
      (fun other store after => rules.keeps step other store after) front stopped middle
      (left_behind step member) earlier
    obtain ⟨error, refused⟩ := rules.refuses step middle still_left once
    obtain ⟨_, executed_again, -⟩ := (bind_ok_iff _ _ _).mp later
    rw [refused] at executed_again
    cases executed_again
  · intro all
    exact ⟨stopped, executeAll_settled execute done stopped fun step member =>
      rules.repeats step stopped (left_behind step member) (all step member), after⟩

end Store
