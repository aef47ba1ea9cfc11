import Mathlib.Data.List.Basic

/-!
# Runs of a deterministic system

A system is a step function on states, driven by a list of moves. A condition on
single steps holds along a run when it holds at each state the run passes
through together with the move taken there. The rules reduce a property of every
state of a run to what one step preserves.
-/

namespace Store

universe u v

variable {S : Type u} {M : Type v} (step : S → M → S)

/-- The state reached by taking the moves in order. -/
def run (state : S) (moves : List M) : S := moves.foldl step state

@[simp] theorem run_nil (state : S) : run step state [] = state := rfl

@[simp] theorem run_cons (state : S) (move : M) (rest : List M) :
    run step state (move :: rest) = run step (step state move) rest := rfl

/-- A run of two parts continues the second part where the first one stopped. -/
theorem run_append (state : S) (before after : List M) :
    run step state (before ++ after) = run step (run step state before) after :=
  List.foldl_append

/-- Each step of a run meets a condition on the state before it and its move. -/
def Along (holds : S → M → Prop) : S → List M → Prop
  | _, [] => True
  | state, move :: rest => holds state move ∧ Along holds (step state move) rest

instance instDecidableAlong (holds : S → M → Prop)
    [∀ state move, Decidable (holds state move)] :
    (state : S) → (moves : List M) → Decidable (Along step holds state moves)
  | _, [] => .isTrue trivial
  | state, move :: rest =>
    have := instDecidableAlong holds (step state move) rest
    inferInstanceAs (Decidable (_ ∧ _))

/-- A condition holds along a run of two parts exactly when it holds along both. -/
theorem along_append (holds : S → M → Prop) (state : S) (before after : List M) :
    Along step holds state (before ++ after) ↔
      Along step holds state before ∧ Along step holds (run step state before) after := by
  induction before generalizing state with
  | nil => simp [Along]
  | cons first rest inductionHypothesis =>
    simp only [List.cons_append, Along, inductionHypothesis, run_cons, and_assoc]

/-- An invariant that every step allowed by the condition preserves holds at the
end of a run along which the condition holds. -/
theorem run_invariant (invariant : S → Prop) (holds : S → M → Prop) (state : S)
    (moves : List M) (initially : invariant state)
    (preserved : ∀ state move, invariant state → holds state move → invariant (step state move))
    (allowed : Along step holds state moves) : invariant (run step state moves) := by
  induction moves generalizing state with
  | nil => exact initially
  | cons first rest inductionHypothesis =>
    exact inductionHypothesis (step state first) (preserved state first initially allowed.1)
      allowed.2

/-- An invariant that every move of the run preserves holds at its end. -/
theorem run_preserves (invariant : S → Prop) (state : S) (moves : List M)
    (initially : invariant state)
    (preserved : ∀ state move, invariant state → move ∈ moves → invariant (step state move)) :
    invariant (run step state moves) := by
  induction moves generalizing state with
  | nil => exact initially
  | cons first rest inductionHypothesis =>
    exact inductionHypothesis (step state first)
      (preserved state first initially List.mem_cons_self)
      (fun state move holds member =>
        preserved state move holds (List.mem_cons_of_mem first member))

/-- A condition that follows from an invariant of the run holds along it. -/
theorem along_of_invariant (invariant : S → Prop) (holds : S → M → Prop) (state : S)
    (moves : List M) (initially : invariant state)
    (preserved : ∀ state move, invariant state → move ∈ moves →
      invariant (step state move) ∧ holds state move) :
    Along step holds state moves := by
  induction moves generalizing state with
  | nil => trivial
  | cons first rest inductionHypothesis =>
    obtain ⟨next, here⟩ := preserved state first initially List.mem_cons_self
    exact ⟨here, inductionHypothesis (step state first) next
      (fun state move holds member =>
        preserved state move holds (List.mem_cons_of_mem first member))⟩

/-- A condition along a run, together with an invariant it preserves, makes another
condition hold along it. -/
theorem along_imp (invariant : S → Prop) (holds follows : S → M → Prop) (state : S)
    (moves : List M) (initially : invariant state)
    (preserved : ∀ state move, invariant state → holds state move →
      invariant (step state move) ∧ follows state move)
    (allowed : Along step holds state moves) : Along step follows state moves := by
  induction moves generalizing state with
  | nil => trivial
  | cons first rest inductionHypothesis =>
    obtain ⟨next, here⟩ := preserved state first initially allowed.1
    exact ⟨here, inductionHypothesis (step state first) next allowed.2⟩

/-- A condition along a run, and one that every move of it meets, hold along it together. -/
theorem along_and (holds : S → M → Prop) (each : M → Prop) (state : S) (moves : List M)
    (allowed : Along step holds state moves) (all : ∀ move ∈ moves, each move) :
    Along step (fun state move => holds state move ∧ each move) state moves := by
  induction moves generalizing state with
  | nil => trivial
  | cons first rest inductionHypothesis =>
    exact ⟨⟨allowed.1, all first List.mem_cons_self⟩,
      inductionHypothesis (step state first) allowed.2
        (fun move member => all move (List.mem_cons_of_mem first member))⟩

end Store
