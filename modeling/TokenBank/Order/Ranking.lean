import Mathlib.Data.List.Sort

/-!
# Ranking by a key

Items in the order of a key, where items with one key keep their places. The first item
that passes a test has the least key of all that pass. Where no two items have one key,
neither the ranking nor a search by key depends on the order that the items are given in.
-/

namespace Ranking

universe u v
variable {α : Type u} {κ : Type v} [LinearOrder κ] (key : α → κ)

/-- Items in the order of their keys. -/
def ranked (items : List α) : List α :=
  items.insertionSort (fun left right => key left ≤ key right)

/-- Ranking neither loses nor adds an item. -/
@[simp] theorem mem_ranked (items : List α) (item : α) : item ∈ ranked key items ↔ item ∈ items :=
  List.mem_insertionSort _

/-- Items are ranked only where there are some. -/
theorem ranked_ne_nil (items : List α) (some : items ≠ []) : ranked key items ≠ [] := by
  rw [ne_eq, ← List.length_eq_zero_iff] at some ⊢
  rwa [ranked, List.length_insertionSort]

/-- The keys of ranked items do not decrease. -/
theorem ranked_pairwise (items : List α) :
    (ranked key items).Pairwise (fun left right => key left ≤ key right) := by
  have total : Std.Total (fun left right : α => key left ≤ key right) :=
    ⟨fun left right => le_total (key left) (key right)⟩
  have trans : IsTrans α (fun left right => key left ≤ key right) :=
    ⟨fun _ _ _ => le_trans⟩
  exact List.pairwise_insertionSort _ items

omit [LinearOrder κ] in
/-- The first item of an ordered list that passes is related to all others that pass. -/
theorem find?_pairwise {related : α → α → Prop} (same : ∀ item, related item item)
    (passes : α → Bool) (items : List α) (ordered : items.Pairwise related) (best : α)
    (found : items.find? passes = some best) :
    ∀ other ∈ items, passes other = true → related best other := by
  induction items with
  | nil => cases found
  | cons head rest inductionHypothesis =>
    obtain ⟨first, later⟩ := List.pairwise_cons.mp ordered
    intro other member passed
    cases passedHead : passes head with
    | true =>
      have same_head : head = best := by simpa [passedHead] using found
      subst same_head
      rcases List.mem_cons.mp member with rfl | inRest
      · exact same other
      · exact first other inRest
    | false =>
      have foundLater : rest.find? passes = some best := by simpa [passedHead] using found
      rcases List.mem_cons.mp member with rfl | inRest
      · rw [passedHead] at passed
        cases passed
      · exact inductionHypothesis later foundLater other inRest passed

/-- The first ranked item that passes has the least key of all that pass. -/
theorem first_least (passes : α → Bool) (items : List α) (best : α)
    (found : (ranked key items).find? passes = some best) :
    best ∈ items ∧ passes best = true ∧
      ∀ other ∈ items, passes other = true → key best ≤ key other := by
  refine ⟨(mem_ranked key items best).mp (List.mem_of_find?_eq_some found),
    List.find?_some found, ?_⟩
  intro other member passed
  exact find?_pairwise (fun item => le_refl (key item)) passes _ (ranked_pairwise key items) best
    found other ((mem_ranked key items other).mpr member) passed

/-- Items that are given in another order are ranked alike if no two have one key. -/
theorem ranked_perm (items others : List α) (permuted : items.Perm others)
    (distinct : (items.map key).Nodup) : ranked key items = ranked key others := by
  have reordered : (ranked key items).Perm (ranked key others) :=
    (List.perm_insertionSort _ items).trans
      (permuted.trans (List.perm_insertionSort _ others).symm)
  refine List.Perm.eq_of_pairwise ?_ (ranked_pairwise key items) (ranked_pairwise key others)
    reordered
  intro left right inItems inOthers notGreater notLess
  exact List.inj_on_of_nodup_map distinct ((mem_ranked key items left).mp inItems)
    (permuted.mem_iff.mpr ((mem_ranked key others right).mp inOthers))
    (le_antisymm notGreater notLess)

omit [LinearOrder κ] in
/-- The item with a key, where no two items have one. -/
theorem find?_key_iff [DecidableEq κ] (items : List α) (distinct : (items.map key).Nodup)
    (asked : κ) (item : α) :
    items.find? (fun item => key item = asked) = some item ↔ item ∈ items ∧ key item = asked := by
  constructor
  · intro found
    exact ⟨List.mem_of_find?_eq_some found, by simpa using List.find?_some found⟩
  · rintro ⟨member, rfl⟩
    cases found : items.find? (fun other => key other = key item) with
    | none => exact absurd (List.find?_eq_none.mp found item member) (by simp)
    | some other =>
      have same_key : key other = key item := by simpa using List.find?_some found
      rw [List.inj_on_of_nodup_map distinct (List.mem_of_find?_eq_some found) member same_key]

omit [LinearOrder κ] in
/-- A search by a key finds the same item in every order of the items. -/
theorem find?_key_perm [DecidableEq κ] (items others : List α) (permuted : items.Perm others)
    (distinct : (items.map key).Nodup) (asked : κ) :
    items.find? (fun item => key item = asked) = others.find? (fun item => key item = asked) := by
  have distinct_others : (others.map key).Nodup := (permuted.map key).nodup_iff.mp distinct
  apply Option.ext
  intro item
  rw [find?_key_iff key items distinct, find?_key_iff key others distinct_others,
    permuted.mem_iff]

end Ranking
