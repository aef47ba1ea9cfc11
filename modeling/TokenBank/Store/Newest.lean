import Mathlib
import TokenBank.Store.Table

/-!
# The newest row

An ordered query with a limit of one row, for rows that carry a stamp: of the rows with the
greatest stamp it finds the one listed first. A row appended to the list takes over exactly
when its stamp exceeds all others.
-/

namespace Store

universe u v

variable {α : Type u} {τ : Type v} [LinearOrder τ]

/-- The row with the greatest stamp, and the first one of several. -/
def newest (stamp : α → τ) (rows : List α) : Option α :=
  first (fun left right => decide (stamp right < stamp left)) rows

variable (stamp : α → τ)

/-- One row is the newest one. -/
theorem newest_singleton (row : α) : newest stamp [row] = some row := rfl

/-- An appended row takes over if it has a greater stamp. -/
theorem newest_append (rows : List α) (row : α) : newest stamp (rows ++ [row]) =
    match newest stamp rows with
    | none => some row
    | some best => if stamp best < stamp row then some row else some best := by
  cases rows with
  | nil => rfl
  | cons head rest =>
    simp only [newest, first, List.cons_append, List.foldl_append, List.foldl_cons,
      List.foldl_nil, decide_eq_true_eq]
    split <;> rfl

/-- There is a newest row exactly if there is a row. -/
theorem newest_none_iff (rows : List α) : newest stamp rows = none ↔ rows = [] := by
  cases rows <;> simp [newest, first]

/-- The newest row is one of the rows, and none has a greater stamp. -/
theorem newest_spec (rows : List α) (best : α) (found : newest stamp rows = some best) :
    best ∈ rows ∧ ∀ row ∈ rows, stamp row ≤ stamp best := by
  induction rows using List.reverseRecOn generalizing best with
  | nil => cases found
  | append_singleton rows last inductionHypothesis =>
    rw [newest_append] at found
    cases earlier : newest stamp rows with
    | none =>
      rw [earlier] at found
      have same_row := Option.some.inj found
      subst same_row
      have empty := (newest_none_iff stamp rows).mp earlier
      subst empty
      simp
    | some before =>
      obtain ⟨member, greatest⟩ := inductionHypothesis before earlier
      simp only [earlier] at found
      split at found
      · rename_i greater
        have same_row := Option.some.inj found
        subst same_row
        refine ⟨by simp, fun row listed => ?_⟩
        rcases List.mem_append.mp listed with old | new
        · exact (greatest row old).trans greater.le
        · rw [List.mem_singleton.mp new]
      · rename_i notGreater
        have same_row := Option.some.inj found
        subst same_row
        refine ⟨List.mem_append_left _ member, fun row listed => ?_⟩
        rcases List.mem_append.mp listed with old | new
        · exact greatest row old
        · rw [List.mem_singleton.mp new]
          exact le_of_not_gt notGreater

/-- A row whose stamp is exceeded by none of the rows is kept when it is appended to. -/
theorem newest_kept (rows : List α) (row best : α) (found : newest stamp rows = some best)
    (older : ∃ other ∈ rows, stamp row ≤ stamp other) :
    newest stamp (rows ++ [row]) = some best := by
  obtain ⟨other, member, exceeds⟩ := older
  have greatest := (newest_spec stamp rows best found).2 other member
  rw [newest_append, found]
  exact if_neg (not_lt_of_ge (exceeds.trans greatest))

/-- A row with a greater stamp than all others takes over. -/
theorem newest_taken (rows : List α) (row : α) (newer : ∀ other ∈ rows, stamp other < stamp row) :
    newest stamp (rows ++ [row]) = some row := by
  rw [newest_append]
  cases earlier : newest stamp rows with
  | none => rfl
  | some before => exact if_pos (newer before (newest_spec stamp rows before earlier).1)

/-- Only the stamps matter: rows that are rewritten under their stamps keep their order. -/
theorem newest_map (rows : List α) (rewrite : α → α)
    (kept : ∀ row, stamp (rewrite row) = stamp row) :
    newest stamp (rows.map rewrite) = (newest stamp rows).map rewrite := by
  induction rows using List.reverseRecOn with
  | nil => rfl
  | append_singleton rows last inductionHypothesis =>
    rw [List.map_append, List.map_singleton, newest_append, newest_append, inductionHypothesis]
    cases newest stamp rows with
    | none => rfl
    | some best =>
      simp only [Option.map_some, kept]
      split <;> rfl

/-- Rows without a common stamp have one newest row, whatever order they are listed in. -/
theorem newest_perm (rows others : List α) (permuted : rows.Perm others)
    (distinct : (rows.map stamp).Nodup) : newest stamp rows = newest stamp others := by
  cases found : newest stamp rows with
  | none =>
    have empty := (newest_none_iff stamp rows).mp found
    subst empty
    rw [← permuted.nil_eq]
    rfl
  | some best =>
    obtain ⟨member, greatest⟩ := newest_spec stamp rows best found
    cases found_other : newest stamp others with
    | none =>
      rw [(newest_none_iff stamp others).mp found_other] at permuted
      exact absurd (permuted.mem_iff.mp member) List.not_mem_nil
    | some other =>
      obtain ⟨member_other, greatest_other⟩ := newest_spec stamp others other found_other
      have listed : other ∈ rows := permuted.mem_iff.mpr member_other
      have same_stamp : stamp best = stamp other :=
        le_antisymm (greatest_other best (permuted.mem_iff.mp member)) (greatest other listed)
      rw [List.inj_on_of_nodup_map distinct member listed same_stamp]

/-- The row that comes first is one of the rows. -/
theorem first_mem (before : α → α → Bool) (rows : List α) (best : α)
    (found : first before rows = some best) : best ∈ rows := by
  cases rows with
  | nil => cases found
  | cons head rest =>
    have same_row := Option.some.inj found
    subst same_row
    clear found
    induction rest using List.reverseRecOn with
    | nil => exact List.mem_cons_self
    | append_singleton rows last inductionHypothesis =>
      rw [List.foldl_append, List.foldl_cons, List.foldl_nil]
      split
      · simp
      · rw [← List.cons_append]
        exact List.mem_append_left _ inductionHypothesis

/-- The row with the least stamp is the newest one of the opposite order. -/
theorem first_eq_newest (rows : List α) :
    first (fun left right => decide (stamp left < stamp right)) rows =
      newest (fun row => OrderDual.toDual (stamp row)) rows := rfl

end Store
