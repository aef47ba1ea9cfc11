import Mathlib.Logic.Function.Basic
import Mathlib.Data.List.Basic

/-!
# Journals

A journal is a list of notes. Each note gives a subject a value, and a later note
about a subject replaces an earlier one. Replaying a journal is reading it in
order, from given values on; a subject without a note keeps the value it had.
-/

namespace Store

universe u v

variable {κ : Type u} {ν : Type v} [DecidableEq κ]

/-- The values of all subjects after the notes are read in order. -/
def replay (values : κ → Option ν) (notes : List (κ × ν)) : κ → Option ν :=
  notes.foldl (fun values note => Function.update values note.1 (some note.2)) values

@[simp] theorem replay_nil (values : κ → Option ν) : replay values [] = values := rfl

@[simp] theorem replay_cons (values : κ → Option ν) (subject : κ) (value : ν)
    (rest : List (κ × ν)) : replay values ((subject, value) :: rest) =
      replay (Function.update values subject (some value)) rest := rfl

/-- A journal of two parts is read one part after the other. -/
theorem replay_append (values : κ → Option ν) (before after : List (κ × ν)) :
    replay values (before ++ after) = replay (replay values before) after :=
  List.foldl_append

/-- A subject keeps its value unless the journal has a note about it, whose value
does not depend on earlier ones. -/
theorem replay_eq_or (values : κ → Option ν) (notes : List (κ × ν)) (subject : κ) :
    replay values notes subject =
      (replay (fun _ => none) notes subject).or (values subject) := by
  induction notes generalizing values with
  | nil => rfl
  | cons note rest inductionHypothesis =>
    rw [replay_cons, replay_cons, inductionHypothesis, inductionHypothesis
      (Function.update (fun _ => none) note.1 (some note.2)), Option.or_assoc]
    by_cases about : subject = note.1
    · simp [about]
    · simp [Function.update_of_ne about]

/-- A subject without a note keeps its value. -/
theorem replay_of_unmentioned (values : κ → Option ν) (notes : List (κ × ν)) (subject : κ)
    (unmentioned : ∀ note ∈ notes, note.1 ≠ subject) :
    replay values notes subject = values subject := by
  induction notes generalizing values with
  | nil => rfl
  | cons note rest inductionHypothesis =>
    have others : ∀ later ∈ rest, later.1 ≠ subject :=
      fun later member => unmentioned later (List.mem_cons_of_mem note member)
    rw [replay_cons, inductionHypothesis _ others,
      Function.update_of_ne (unmentioned note List.mem_cons_self).symm]

/-- A subject that ends without a value has no note. -/
theorem unmentioned_of_replay (values : κ → Option ν) (notes : List (κ × ν)) (subject : κ)
    (absent : replay values notes subject = none) : ∀ note ∈ notes, note.1 ≠ subject := by
  induction notes generalizing values with
  | nil => simp
  | cons note rest inductionHypothesis =>
    have later := inductionHypothesis _ absent
    rw [replay_cons, replay_of_unmentioned _ rest subject later] at absent
    have first : note.1 ≠ subject := by
      intro about
      simp [about] at absent
    exact List.forall_mem_cons.mpr ⟨first, later⟩

/-- A subject with a note has the value of one of its notes. -/
theorem replay_of_same (values : κ → Option ν) (notes : List (κ × ν)) (subject : κ) (value : ν)
    (mentioned : ∃ note ∈ notes, note.1 = subject)
    (same : ∀ note ∈ notes, note.1 = subject → note.2 = value) :
    replay values notes subject = some value := by
  induction notes generalizing values with
  | nil =>
    obtain ⟨note, member, -⟩ := mentioned
    cases member
  | cons note rest inductionHypothesis =>
    have later_same : ∀ later ∈ rest, later.1 = subject → later.2 = value :=
      fun later member => same later (List.mem_cons_of_mem note member)
    by_cases later : ∃ later ∈ rest, later.1 = subject
    · exact inductionHypothesis _ later later_same
    · obtain ⟨head, member, about⟩ := mentioned
      have first : head = note := by
        rcases List.mem_cons.mp member with here | there
        · exact here
        · exact absurd ⟨head, there, about⟩ later
      subst first
      have others : ∀ other ∈ rest, other.1 ≠ subject :=
        fun other member about => later ⟨other, member, about⟩
      rw [replay_cons, replay_of_unmentioned _ rest subject others, ← about,
        Function.update_self, same head List.mem_cons_self about]

end Store
