import Mathlib.Algebra.BigOperators.Group.List.Basic
import Mathlib.Algebra.GroupWithZero.Nat
import Mathlib.Data.List.Basic
import Mathlib.Data.List.Induction
import TokenBank.Order.Ranking

/-!
# Groups by a key

The items of a list are put one by one into the group of their key, and the groups come out
in the order of their keys. They partition the list: each key has one group, which holds
the items with the key in the order of the list, and no item is left out. So the groups
together are a rearrangement of the list, and what is added up over the items of each group
and then over the groups is the same as over the list.
-/

namespace Grouping

universe u v w
variable {α : Type u} {κ : Type v} [DecidableEq κ] (key : α → κ)

/-- Put an item into the group of its key, behind the items that are there. -/
def place (groups : List (κ × List α)) (item : α) : List (κ × List α) :=
  if groups.any (fun group => group.1 = key item) then
    groups.map (fun group => if group.1 = key item then (group.1, group.2 ++ [item]) else group)
  else groups ++ [(key item, [item])]

/-- The groups of a list, in the order in which their keys occur. -/
def grouped (items : List α) : List (κ × List α) := items.foldl (place key) []

/-- Every key has one group, which holds all items with the key in their order, and some. -/
structure Partition (items : List α) (groups : List (κ × List α)) : Prop where
  distinct : (groups.map Prod.fst).Nodup
  exact : ∀ group ∈ groups, group.2 = items.filter (fun item => key item = group.1)
  filled : ∀ group ∈ groups, group.2 ≠ []
  covered : ∀ item ∈ items, key item ∈ groups.map Prod.fst

/-- Placing an item keeps the keys, and adds that of the item if it is new. -/
theorem place_keys (groups : List (κ × List α)) (item : α) :
    (place key groups item).map Prod.fst =
      if key item ∈ groups.map Prod.fst then groups.map Prod.fst
      else groups.map Prod.fst ++ [key item] := by
  have known : groups.any (fun group => group.1 = key item) = true ↔
      key item ∈ groups.map Prod.fst := by
    simp [List.mem_map]
  rw [place]
  by_cases present : key item ∈ groups.map Prod.fst
  · rw [if_pos (known.mpr present), if_pos present, List.map_map]
    apply List.map_congr_left
    intro group _
    rw [Function.comp_apply]
    split_ifs <;> rfl
  · rw [if_neg (fun found => present (known.mp found)), if_neg present, List.map_append]
    rfl

/-- Placing one more item extends a partition. -/
theorem Partition.placed {items : List α} {groups : List (κ × List α)}
    (partition : Partition key items groups) (item : α) :
    Partition key (items ++ [item]) (place key groups item) := by
  have keys := place_keys key groups item
  have rest (wanted : κ) (apart : wanted ≠ key item) :
      (items ++ [item]).filter (fun item => key item = wanted) =
        items.filter (fun item => key item = wanted) := by
    simp [List.filter_append, apart.symm]
  have own : (items ++ [item]).filter (fun other => key other = key item) =
      items.filter (fun other => key other = key item) ++ [item] := by
    simp [List.filter_append]
  have holds : ∀ group ∈ place key groups item,
      group.2 = (items ++ [item]).filter (fun other => key other = group.1) ∧ group.2 ≠ [] := by
    intro group member
    rw [place] at member
    split_ifs at member with present
    · obtain ⟨before, beforeMember, same⟩ := List.mem_map.mp member
      subst same
      split_ifs with named
      · rw [partition.exact before beforeMember, named, own]
        exact ⟨rfl, by simp⟩
      · rw [rest _ named]
        exact ⟨partition.exact before beforeMember, partition.filled before beforeMember⟩
    · rcases List.mem_append.mp member with before | last
      · have apart : group.1 ≠ key item := fun same =>
          present (List.any_eq_true.mpr ⟨group, before, by simp [same]⟩)
        rw [rest _ apart]
        exact ⟨partition.exact group before, partition.filled group before⟩
      · rw [List.mem_singleton.mp last, own]
        have none : items.filter (fun other => key other = key item) = [] := by
          rw [List.filter_eq_nil_iff]
          intro other otherMember same
          obtain ⟨group, groupMember, named⟩ := List.mem_map.mp (partition.covered other otherMember)
          refine present (List.any_eq_true.mpr ⟨group, groupMember, ?_⟩)
          rw [named]
          exact same
        rw [none]
        exact ⟨rfl, by simp⟩
  refine ⟨?_, fun group member => (holds group member).1, fun group member =>
    (holds group member).2, ?_⟩
  · rw [keys]
    split_ifs with present
    · exact partition.distinct
    · refine List.nodup_append.mpr ⟨partition.distinct, List.nodup_singleton _, ?_⟩
      intro one oneMember other otherMember same
      rw [List.mem_singleton.mp otherMember] at same
      exact present (same ▸ oneMember)
  · intro other otherMember
    rw [keys]
    rcases List.mem_append.mp otherMember with before | last
    · have listed := partition.covered other before
      split_ifs
      · exact listed
      · exact List.mem_append_left _ listed
    · rw [List.mem_singleton.mp last]
      split_ifs with present
      · exact present
      · simp

/-- The groups of a list partition it. -/
theorem grouped_partition (items : List α) : Partition key items (grouped key items) := by
  induction items using List.reverseRecOn with
  | nil => exact ⟨List.nodup_nil, by simp [grouped], by simp [grouped], by simp⟩
  | append_singleton items item inductionHypothesis =>
    rw [grouped, List.foldl_append]
    exact inductionHypothesis.placed key item

/-- The order of the groups makes no difference to a partition. -/
theorem Partition.perm {items : List α} {groups others : List (κ × List α)}
    (partition : Partition key items groups) (permuted : groups.Perm others) :
    Partition key items others where
  distinct := (permuted.map Prod.fst).nodup_iff.mp partition.distinct
  exact group member := partition.exact group (permuted.mem_iff.mpr member)
  filled group member := partition.filled group (permuted.mem_iff.mpr member)
  covered item member := (permuted.map Prod.fst).mem_iff.mp (partition.covered item member)

/-- The groups of a list, in the order of their keys. -/
def sortedGroups {ρ : Type w} [LinearOrder ρ] (rank : κ → ρ) (items : List α) :
    List (κ × List α) :=
  Ranking.ranked (fun group => rank group.1) (grouped key items)

/-- Groups in the order of their keys partition the list. -/
theorem sortedGroups_partition {ρ : Type w} [LinearOrder ρ] (rank : κ → ρ) (items : List α) :
    Partition key items (sortedGroups key rank items) :=
  (grouped_partition key items).perm key (List.perm_insertionSort _ _).symm

/-- The items with each of some distinct keys that all items have are all items, rearranged. -/
theorem filters_perm (keys : List κ) (distinct : keys.Nodup) (items : List α)
    (covered : ∀ item ∈ items, key item ∈ keys) :
    (keys.flatMap (fun wanted => items.filter (fun item => key item = wanted))).Perm items := by
  induction keys generalizing items with
  | nil =>
    have empty : items = [] := List.eq_nil_iff_forall_not_mem.mpr
      (fun item member => List.not_mem_nil (covered item member))
    rw [empty]
    exact List.Perm.nil
  | cons first rest inductionHypothesis =>
    obtain ⟨apart, distinctRest⟩ := List.nodup_cons.mp distinct
    have others := inductionHypothesis distinctRest
      (items.filter (fun item => !decide (key item = first))) (by
        intro item member
        obtain ⟨inItems, differs⟩ := List.mem_filter.mp member
        rcases List.mem_cons.mp (covered item inItems) with same | later
        · simp [same] at differs
        · exact later)
    have same : rest.flatMap (fun wanted => (items.filter (fun item =>
        !decide (key item = first))).filter (fun item => key item = wanted)) =
        rest.flatMap (fun wanted => items.filter (fun item => key item = wanted)) := by
      apply List.flatMap_congr
      intro wanted member
      rw [List.filter_filter]
      apply List.filter_congr
      intro item _
      by_cases own : key item = wanted
      · have differs : key item ≠ first := fun isFirst => apart (isFirst ▸ own ▸ member)
        simp [own, own ▸ differs]
      · simp [own]
    rw [same] at others
    rw [List.flatMap_cons]
    exact (List.Perm.append_left _ others).trans
      (List.filter_append_perm (fun item => decide (key item = first)) items)

/-- The groups of a partition together are the list, rearranged. -/
theorem Partition.rearranged {items : List α} {groups : List (κ × List α)}
    (partition : Partition key items groups) : (groups.flatMap Prod.snd).Perm items := by
  have filters : groups.flatMap Prod.snd = (groups.map Prod.fst).flatMap
      (fun wanted => items.filter (fun item => key item = wanted)) := by
    rw [List.flatMap_map]
    exact List.flatMap_congr partition.exact
  rw [filters]
  exact filters_perm key _ partition.distinct items partition.covered

/-- A sum over the items of each group, added up over the groups, is the sum over the list. -/
theorem Partition.sum {M : Type w} [AddCommMonoid M] {items : List α}
    {groups : List (κ × List α)} (partition : Partition key items groups) (measure : α → M) :
    (groups.map (fun group => (group.2.map measure).sum)).sum = (items.map measure).sum := by
  rw [← ((partition.rearranged key).map measure).sum_eq, List.map_flatMap,
    List.flatMap_def, List.sum_flatten, List.map_map]
  rfl

/-! ## Amounts by a key -/

/-- Add an amount to the one under a key. -/
def add (amounts : List (κ × Nat)) (wanted : κ) (amount : Nat) : List (κ × Nat) :=
  if amounts.any (fun entry => entry.1 = wanted) then
    amounts.map (fun entry => if entry.1 = wanted then (entry.1, entry.2 + amount) else entry)
  else amounts ++ [(wanted, amount)]

/-- A group with the amounts of its items added up. -/
def amountOf (amount : α → Nat) (group : κ × List α) : κ × Nat :=
  (group.1, (group.2.map amount).sum)

/-- Placing an item adds its amount. -/
theorem map_place (amount : α → Nat) (groups : List (κ × List α)) (item : α) :
    (place key groups item).map (amountOf amount) =
      add (groups.map (amountOf amount)) (key item) (amount item) := by
  have known : (groups.map (amountOf amount)).any (fun entry => entry.1 = key item) =
      groups.any (fun group => group.1 = key item) := by
    rw [List.any_map]
    rfl
  rw [place, add, known]
  split
  · rw [List.map_map, List.map_map]
    refine List.map_congr_left ?_
    intro group _
    simp only [Function.comp_apply, amountOf]
    by_cases named : group.1 = key item
    · simp [named]
    · simp [named]
  · simp [amountOf]

/-- Amounts that are added one by one are those of the groups. -/
theorem foldl_add (amount : α → Nat) (items : List α) :
    items.foldl (fun amounts item => add amounts (key item) (amount item)) [] =
      (grouped key items).map (amountOf amount) := by
  induction items using List.reverseRecOn with
  | nil => rfl
  | append_singleton items item inductionHypothesis =>
    have placed : grouped key (items ++ [item]) = place key (grouped key items) item :=
      List.foldl_append
    rw [List.foldl_append, inductionHypothesis, placed, map_place]
    rfl

/-- Amounts that count items by a key: each key that an item has is there once, with the number of
its items. -/
structure Counts (amounts : List (κ × Nat)) (items : List α) : Prop where
  distinct : (amounts.map Prod.fst).Nodup
  exact : ∀ entry ∈ amounts, entry.2 = items.countP (fun item => key item = entry.1)
  covered : ∀ item ∈ items, key item ∈ amounts.map Prod.fst
  total : (amounts.map Prod.snd).sum = items.length

variable {ι : Type w} (fine : α → ι) (coarse : ι → κ)

/-- The items of groups by a finer key that have a coarser one are those of the groups that have
it. -/
theorem countP_flatMap (groups : List (ι × List α))
    (own : ∀ group ∈ groups, ∀ item ∈ group.2, fine item = group.1) (wanted : κ) :
    (groups.flatMap Prod.snd).countP (fun item => coarse (fine item) = wanted) =
      ((groups.filter (fun group => coarse group.1 = wanted)).map
        (fun group => group.2.length)).sum := by
  induction groups with
  | nil => rfl
  | cons group rest inductionHypothesis =>
    have later := inductionHypothesis (fun other member => own other (List.mem_cons_of_mem _ member))
    have here := own group List.mem_cons_self
    rw [List.flatMap_cons, List.countP_append, later]
    by_cases named : coarse group.1 = wanted
    · rw [List.filter_cons_of_pos (by simpa using named), List.map_cons, List.sum_cons,
        List.countP_eq_length.mpr (fun item member => by simpa [here item member] using named)]
    · rw [List.filter_cons_of_neg (by simpa using named),
        List.countP_eq_zero.mpr (fun item member => by simpa [here item member] using named),
        Nat.zero_add]

/-- The sizes of groups by a finer key, added up by a coarser one, count the items by that one. -/
theorem Partition.counts [DecidableEq ι] {items : List α} {groups : List (ι × List α)}
    (partition : Partition fine items groups) :
    Counts (fun item => coarse (fine item)) (groups.foldl (fun amounts group =>
      add amounts (coarse group.1) group.2.length) []) items := by
  let named := fun group : ι × List α => coarse group.1
  let size := fun group : ι × List α => group.2.length
  have added : groups.foldl (fun amounts group => add amounts (coarse group.1) group.2.length) [] =
      (grouped named groups).map (amountOf size) := foldl_add named size groups
  have regrouped := grouped_partition named groups
  have keys : ((grouped named groups).map (amountOf size)).map Prod.fst =
      (grouped named groups).map Prod.fst := by
    rw [List.map_map]
    rfl
  have own : ∀ group ∈ groups, ∀ item ∈ group.2, fine item = group.1 := by
    intro group member item inGroup
    rw [partition.exact group member] at inGroup
    simpa using (List.mem_filter.mp inGroup).2
  rw [added]
  refine ⟨keys ▸ regrouped.distinct, ?_, ?_, ?_⟩
  · intro entry member
    obtain ⟨regroup, listed, rfl⟩ := List.mem_map.mp member
    rw [← (partition.rearranged fine).countP_eq, countP_flatMap fine coarse groups own]
    change (regroup.2.map size).sum = _
    rw [regrouped.exact regroup listed]
    rfl
  · intro item member
    obtain ⟨group, listed, same⟩ := List.mem_map.mp (partition.covered item member)
    rw [keys, ← same]
    exact regrouped.covered group listed
  · have sizes := regrouped.sum named size
    rw [List.map_map]
    refine sizes.trans ?_
    rw [← (partition.rearranged fine).length_eq, List.length_flatMap]

end Grouping
