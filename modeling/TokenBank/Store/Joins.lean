import Mathlib.Data.List.Basic
import Mathlib.Data.List.Perm.Basic
import TokenBank.Store.Table

/-!
# Left joins

A left join lists each row of its left side with the rows of its right side that go with it, or
alone if there are none. Where no right row goes with two left rows, the pairs it lists are the
right rows again, each with the left row it goes with; joins of this kind can be put one behind
the other, and a row of the last side then leads back through all of them.
-/

namespace Store

universe u v w
variable {α : Type u} {β : Type v} {γ : Type w}

/-- A left row with the right rows that go with it, or alone. -/
def joined (on : α → β → Bool) (rights : List β) (left : α) : List (α × Option β) :=
  match rights.filter (on left) with
  | [] => [(left, none)]
  | first :: rest => (first :: rest).map (fun right => (left, some right))

/-- The left join of two lists of rows. -/
def leftJoin (on : α → β → Bool) (lefts : List α) (rights : List β) : List (α × Option β) :=
  lefts.flatMap (joined on rights)

/-- The pairs of a left join, without the rows that are alone. -/
def pairs (rows : List (α × Option β)) : List (α × β) :=
  rows.filterMap (fun row => row.2.map (fun right => (row.1, right)))

/-- No right row goes with two of the left rows. -/
def Single (on : α → β → Bool) (lefts : List α) : Prop :=
  lefts.Pairwise (fun left other => ∀ right, ¬ (on left right = true ∧ on other right = true))

variable {on : α → β → Bool} {lefts : List α} {rights : List β}

/-- The pairs that one left row is listed in. -/
theorem pairs_joined (left : α) : pairs (joined on rights left) =
    (rights.filter (on left)).map (fun right => (left, right)) := by
  unfold joined pairs
  split
  · rename_i alone
    rw [alone]
    rfl
  · rename_i first rest found
    rw [found, List.filterMap_map]
    exact List.filterMap_eq_map' ▸ rfl

/-- The pairs of one left row are with the right rows that go with it. -/
theorem mem_joined_some (row left : α) (right : β) : (row, some right) ∈ joined on rights left ↔
    row = left ∧ right ∈ rights ∧ on left right = true := by
  have pair : (row, some right) ∈ joined on rights left ↔
      (row, right) ∈ pairs (joined on rights left) := by
    simp [pairs]
  rw [pair, pairs_joined]
  simp only [List.mem_map, List.mem_filter, Prod.mk.injEq]
  constructor
  · rintro ⟨other, ⟨there, goes⟩, rfl, rfl⟩
    exact ⟨rfl, there, goes⟩
  · rintro ⟨rfl, there, goes⟩
    exact ⟨right, ⟨there, goes⟩, rfl, rfl⟩

/-- A pair is listed exactly if its rows are there and go together. -/
theorem mem_leftJoin_some (left : α) (right : β) :
    (left, some right) ∈ leftJoin on lefts rights ↔
      left ∈ lefts ∧ right ∈ rights ∧ on left right = true := by
  simp only [leftJoin, List.mem_flatMap, mem_joined_some]
  constructor
  · rintro ⟨row, there, rfl, goes⟩
    exact ⟨there, goes⟩
  · rintro ⟨there, goes⟩
    exact ⟨left, there, rfl, goes⟩

/-- The pairs of a left join are its rows that are not alone. -/
theorem map_pairs (rows : List (α × Option β)) :
    (pairs rows).map (fun pair => (pair.1, some pair.2)) =
      rows.filter (fun row => row.2.isSome) := by
  rw [pairs, List.map_filterMap, ← List.filterMap_eq_filter]
  refine List.filterMap_congr ?_
  rintro ⟨left, right⟩ _
  cases right <;> rfl

/-- Where a right row goes with one left row at most, that row is found. -/
theorem Single.find?_some_iff (single : Single on lefts) (left : α) (right : β) :
    lefts.find? (fun row => on row right) = some left ↔ left ∈ lefts ∧ on left right = true := by
  induction lefts with
  | nil => simp
  | cons first rest inductionHypothesis =>
    obtain ⟨apart, others⟩ := List.pairwise_cons.mp single
    rw [List.find?_cons]
    by_cases goes : on first right = true
    · rw [goes]
      constructor
      · rintro ⟨⟩
        exact ⟨List.mem_cons_self, goes⟩
      · rintro ⟨there, same⟩
        rcases List.mem_cons.mp there with rfl | later
        · rfl
        · exact absurd ⟨goes, same⟩ (apart left later right)
    · have missed : on first right = false := Bool.not_eq_true _ ▸ goes
      rw [missed]
      refine (inductionHypothesis others).trans ⟨fun found => ⟨List.mem_cons_of_mem _ found.1,
        found.2⟩, ?_⟩
      rintro ⟨there, same⟩
      rcases List.mem_cons.mp there with rfl | later
      · exact absurd same goes
      · exact ⟨later, same⟩

/-- Items that one rule takes, and those that another one takes, are all that a rule takes that
tries one after the other, if none is taken twice. -/
theorem filterMap_split (takes : β → Bool) (one : β → γ) (other : β → Option γ)
    (once : ∀ right, takes right = true → other right = none) (rights : List β) :
    ((rights.filter takes).map one ++ rights.filterMap other).Perm
      (rights.filterMap (fun right => if takes right then some (one right) else other right)) := by
  induction rights with
  | nil => exact .refl _
  | cons right rest inductionHypothesis =>
    by_cases taken : takes right = true
    · rw [List.filter_cons_of_pos taken, List.filterMap_cons_none (once right taken),
        List.filterMap_cons_some (b := one right) (by rw [if_pos taken])]
      exact inductionHypothesis.cons _
    · rw [List.filter_cons_of_neg taken]
      cases found : other right with
      | none =>
        rw [List.filterMap_cons_none found, List.filterMap_cons_none (by rw [if_neg taken, found])]
        exact inductionHypothesis
      | some value =>
        rw [List.filterMap_cons_some found,
          List.filterMap_cons_some (b := value) (by rw [if_neg taken, found])]
        exact List.perm_middle.trans (inductionHypothesis.cons _)

/-- The pairs of a left join are the right rows that go with a left one, each with that one. -/
theorem pairs_perm (single : Single on lefts) : (pairs (leftJoin on lefts rights)).Perm
    (rights.filterMap (fun right =>
      (lefts.find? (fun left => on left right)).map (fun left => (left, right)))) := by
  induction lefts with
  | nil =>
    simp [leftJoin, pairs]
  | cons first rest inductionHypothesis =>
    obtain ⟨apart, others⟩ := List.pairwise_cons.mp single
    have listed : pairs (leftJoin on (first :: rest) rights) =
        (rights.filter (on first)).map (fun right => (first, right)) ++
          pairs (leftJoin on rest rights) := by
      rw [← pairs_joined, leftJoin, List.flatMap_cons, pairs, List.filterMap_append]
      rfl
    have once : ∀ right, on first right = true →
        (rest.find? (fun left => on left right)).map (fun left => (left, right)) = none := by
      intro right goes
      rw [Option.map_eq_none_iff, List.find?_eq_none]
      intro left there same
      exact apart left there right ⟨goes, same⟩
    rw [listed]
    refine ((List.Perm.append_left _ (inductionHypothesis others)).trans
      (filterMap_split (on first) _ _ once rights)).trans (.of_eq ?_)
    refine List.filterMap_congr ?_
    intro right _
    rw [List.find?_cons]
    by_cases goes : on first right = true
    · rw [if_pos goes, goes]
      rfl
    · have missed : on first right = false := Bool.not_eq_true _ ▸ goes
      rw [if_neg goes, missed]

/-! ## One join behind another -/

/-- A listed row goes with a row of a further table if its right row does. -/
def onRight (on : β → γ → Bool) (row : α × Option β) (further : γ) : Bool :=
  row.2.any (fun right => on right further)

variable {next : β → γ → Bool}

/-- Where the rows of both joins are single, so are those of the second one on the first. -/
theorem Single.leftJoin (single : Single on lefts) (further : Single next rights) :
    Single (onRight (α := α) next) (leftJoin on lefts rights) := by
  have same {right other : β} {last : γ} (there : right ∈ rights) (too : other ∈ rights)
      (goes : next right last = true) (goesToo : next other last = true) : right = other :=
    Option.some.inj (((further.find?_some_iff right last).mpr ⟨there, goes⟩).symm.trans
      ((further.find?_some_iff other last).mpr ⟨too, goesToo⟩))
  refine List.pairwise_flatMap.mpr ⟨?_, ?_⟩
  · intro left _
    unfold joined
    split
    · exact List.pairwise_singleton _ _
    · rename_i first rest found
      rw [← found, List.pairwise_map]
      exact (further.sublist (List.filter_sublist)).imp fun apart last => apart last
  · refine single.imp_of_mem ?_
    rintro left other there too apart ⟨row, right⟩ listed ⟨otherRow, otherRight⟩ listedToo last
      ⟨goes, goesToo⟩
    cases right with
    | none => cases goes
    | some right =>
      cases otherRight with
      | none => cases goesToo
      | some otherRight =>
        obtain ⟨rfl, here, on_left⟩ := (mem_joined_some row left right).mp listed
        obtain ⟨rfl, hereToo, on_other⟩ := (mem_joined_some otherRow other otherRight).mp listedToo
        obtain rfl := same here hereToo goes goesToo
        exact apart right ⟨on_left, on_other⟩

/-- The row of a join that a row of a further table goes with is found table by table. -/
theorem find?_leftJoin (single : Single on lefts) (further : Single next rights) (last : γ) :
    (leftJoin on lefts rights).find? (fun row => onRight next row last) =
      (rights.find? (fun right => next right last)).bind (fun right =>
        (lefts.find? (fun left => on left right)).map (fun left => (left, some right))) := by
  refine Option.ext ?_
  rintro ⟨left, right⟩
  rw [(single.leftJoin further).find?_some_iff]
  simp only [Option.bind_eq_some_iff, Option.map_eq_some_iff, further.find?_some_iff,
    single.find?_some_iff, Prod.mk.injEq]
  constructor
  · rintro ⟨listed, goes⟩
    cases right with
    | none => cases goes
    | some right =>
      obtain ⟨there, here, on_right⟩ := (mem_leftJoin_some left right).mp listed
      exact ⟨right, ⟨here, goes⟩, left, ⟨there, on_right⟩, rfl, rfl⟩
  · rintro ⟨found, ⟨here, goes⟩, row, ⟨there, on_right⟩, rfl, rfl⟩
    exact ⟨(mem_leftJoin_some row found).mpr ⟨there, here, on_right⟩, goes⟩

/-- A join with a table in which a left row has one row at most looks that row up. -/
theorem leftJoin_lookup (lookup : Single (fun right left => on left right) rights) :
    leftJoin on lefts rights = lefts.map (fun left => (left, rights.find? (on left))) := by
  rw [leftJoin, ← List.flatMap_pure_eq_map]
  refine List.flatMap_congr ?_
  intro left _
  have found (right : β) : rights.find? (on left) = some right ↔ right ∈ rights.filter (on left) :=
    (lookup.find?_some_iff right left).trans List.mem_filter.symm
  have distinct : (rights.filter (on left)).Pairwise (fun _ _ => False) := by
    refine (lookup.sublist List.filter_sublist).imp_of_mem ?_
    intro right other there too apart
    exact apart left ⟨(List.mem_filter.mp there).2, (List.mem_filter.mp too).2⟩
  unfold joined
  split
  · rename_i alone
    have missed : rights.find? (on left) = none := by
      rw [Option.eq_none_iff_forall_ne_some]
      intro right same
      have listed := (found right).mp same
      rw [alone] at listed
      cases listed
    rw [Function.comp_apply, missed]
    rfl
  · rename_i first rest listed
    rw [listed] at distinct
    have only : rest = [] := List.eq_nil_iff_forall_not_mem.mpr
      (fun other there => (List.pairwise_cons.mp distinct).1 other there)
    have here : rights.find? (on left) = some first :=
      (found first).mpr (listed ▸ List.mem_cons_self)
    rw [Function.comp_apply, here, only]
    rfl

/-! ## Tables -/

namespace Table

variable {κ : Type v} {ν : Type w}

/-- Rows that refer to a key go with one entry of a table at most. -/
theorem single {δ : Type u} (table : Table κ ν) (refers : δ → κ → Prop)
    [∀ row key, Decidable (refers row key)]
    (once : ∀ row key other, refers row key → refers row other → key = other) :
    Single (fun entry row => decide (refers row entry.1)) table.entries := by
  have distinct := List.pairwise_map.mp table.distinct
  refine distinct.imp ?_
  rintro entry other apart row ⟨refersHere, refersThere⟩
  exact apart (once row _ _ (of_decide_eq_true refersHere) (of_decide_eq_true refersThere))

/-- The entry under a key is found among the entries. -/
theorem find?_entries [DecidableEq κ] (table : Table κ ν) (key : κ) :
    table.entries.find? (fun entry => decide (key = entry.1)) =
      (table.find? key).map (fun row => (key, row)) := by
  have single : Single (fun entry (asked : κ) => decide (asked = entry.1)) table.entries :=
    table.single (fun asked key => asked = key) (fun _ _ _ here there => here.symm.trans there)
  refine Option.ext ?_
  rintro ⟨other, row⟩
  rw [single.find?_some_iff, mem_entries_iff, decide_eq_true_eq, Option.map_eq_some_iff]
  constructor
  · rintro ⟨found, rfl⟩
    exact ⟨row, found, rfl⟩
  · rintro ⟨stored, found, same⟩
    obtain ⟨rfl, rfl⟩ := Prod.mk.inj same
    exact ⟨found, rfl⟩

end Table

end Store
