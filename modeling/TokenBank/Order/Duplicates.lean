import Mathlib.Data.List.Basic
import Mathlib.Data.List.Enum
import Mathlib.Data.List.Infix

/-!
# Repeated items

A scan of a list keeps the items whose key it meets for the first time and counts the
others. The first occurrences among the items, for a notion of being alike, are those that
have no earlier item like them. Where two items have one key exactly if they are alike, the
scan keeps the first occurrences: no two of them are alike, every item is like one of them,
and none is lost from the count.
-/

namespace Duplicates

universe u v
variable {α : Type u} {κ : Type v}

/-! ## First occurrences -/

section Firsts

variable (alike : α → α → Bool)

/-- The item at a place of a list has no earlier one like it. -/
def isFirst (items : List α) (place : α × Nat) : Bool :=
  !(items.take place.2).any (fun earlier => alike earlier place.1)

/-- The items that have no earlier one like them, in the order of the list. -/
def firsts (items : List α) : List α :=
  (items.zipIdx.filter (isFirst alike items)).map Prod.fst

@[simp] theorem firsts_nil : firsts alike [] = [] := rfl

/-- An item behind a list is a first occurrence unless an item of the list is like it, and
changes nothing about the others. -/
theorem firsts_concat (items : List α) (item : α) : firsts alike (items ++ [item]) =
    if items.any (fun earlier => alike earlier item) then firsts alike items
    else firsts alike items ++ [item] := by
  have before : items.zipIdx.filter (isFirst alike (items ++ [item])) =
      items.zipIdx.filter (isFirst alike items) := by
    apply List.filter_congr
    rintro ⟨value, position⟩ member
    have inside : position ≤ items.length := (List.snd_lt_of_mem_zipIdx member).le.trans (by simp)
    simp only [isFirst, List.take_append_of_le_length inside]
  have last : isFirst alike (items ++ [item]) (item, items.length) =
      !items.any (fun earlier => alike earlier item) := by
    rw [isFirst, List.take_append_of_le_length le_rfl, List.take_length]
  rw [firsts, List.zipIdx_append, List.filter_append, List.map_append, before]
  simp only [List.zipIdx_singleton, List.filter_singleton, Nat.zero_add, last]
  split_ifs with repeated
  · simp [firsts, repeated]
  · simp [firsts, repeated]

end Firsts

/-! ## Scanning -/

section Scanning

variable [DecidableEq κ] (key : α → κ)

/-- What a scan has found: the keys it has seen, the items it keeps and how many more there
were. -/
structure Scan (α : Type u) (κ : Type v) where
  seen : List κ := []
  kept : List α := []
  repeated : Nat := 0

/-- Scan one more item. -/
def Scan.next (found : Scan α κ) (item : α) : Scan α κ :=
  if key item ∈ found.seen then { found with repeated := found.repeated + 1 }
  else { found with seen := found.seen ++ [key item], kept := found.kept ++ [item] }

/-- Scan a list from its front. -/
def scan (items : List α) : Scan α κ := items.foldl (Scan.next key) {}

/-- Scanning a list and one more item. -/
theorem scan_concat (items : List α) (item : α) :
    scan key (items ++ [item]) = (scan key items).next key item := by
  rw [scan, List.foldl_append]
  rfl

/-- A scan has seen the keys of the items. -/
theorem mem_seen (items : List α) (wanted : κ) :
    wanted ∈ (scan key items).seen ↔ ∃ item ∈ items, key item = wanted := by
  induction items using List.reverseRecOn with
  | nil => simp [scan]
  | append_singleton items item inductionHypothesis =>
    rw [scan_concat, Scan.next]
    split_ifs with repeated
    · constructor
      · intro seen
        obtain ⟨earlier, member, same⟩ := inductionHypothesis.mp seen
        exact ⟨earlier, List.mem_append_left _ member, same⟩
      · rintro ⟨given, member, same⟩
        rcases List.mem_append.mp member with before | last
        · exact inductionHypothesis.mpr ⟨given, before, same⟩
        · rw [List.mem_singleton.mp last] at same
          exact same ▸ repeated
    · rw [List.mem_append, List.mem_singleton, inductionHypothesis]
      constructor
      · rintro (⟨earlier, member, same⟩ | rfl)
        · exact ⟨earlier, List.mem_append_left _ member, same⟩
        · exact ⟨item, by simp, rfl⟩
      · rintro ⟨given, member, same⟩
        rcases List.mem_append.mp member with before | last
        · exact Or.inl ⟨given, before, same⟩
        · rw [List.mem_singleton.mp last] at same
          exact Or.inr same.symm

/-- A scan counts every item once, as kept or as repeated. -/
theorem kept_length (items : List α) :
    (scan key items).kept.length + (scan key items).repeated = items.length := by
  induction items using List.reverseRecOn with
  | nil => rfl
  | append_singleton items item inductionHypothesis =>
    rw [scan_concat, Scan.next, List.length_append, ← inductionHypothesis]
    split_ifs with repeated
    · simp only [List.length_singleton]
      omega
    · simp only [List.length_append, List.length_singleton]
      omega

/-- Kept items are items of the list, in its order. -/
theorem kept_sublist (items : List α) : (scan key items).kept.Sublist items := by
  induction items using List.reverseRecOn with
  | nil => exact List.Sublist.slnil
  | append_singleton items item inductionHypothesis =>
    rw [scan_concat, Scan.next]
    split_ifs with repeated
    · exact inductionHypothesis.trans (List.sublist_append_left items [item])
    · exact inductionHypothesis.append (List.Sublist.refl [item])

/-- No two kept items have one key. -/
theorem kept_distinct (items : List α) :
    (scan key items).kept.Pairwise (fun one other => key one ≠ key other) ∧
      ∀ item ∈ (scan key items).kept, key item ∈ (scan key items).seen := by
  induction items using List.reverseRecOn with
  | nil => simp [scan]
  | append_singleton items item inductionHypothesis =>
    obtain ⟨distinct, seen⟩ := inductionHypothesis
    rw [scan_concat, Scan.next]
    split_ifs with repeated
    · exact ⟨distinct, seen⟩
    · constructor
      · refine List.pairwise_append.mpr ⟨distinct, List.pairwise_singleton _ _, ?_⟩
        intro kept member last isLast same
        rw [List.mem_singleton.mp isLast] at same
        exact repeated (same ▸ seen kept member)
      · intro kept member
        rcases List.mem_append.mp member with before | last
        · exact List.mem_append_left _ (seen kept before)
        · rw [List.mem_singleton.mp last]
          exact List.mem_append_right _ (List.mem_singleton.mpr rfl)

/-- Every item has the key of a kept one. -/
theorem kept_covers (items : List α) :
    ∀ item ∈ items, ∃ kept ∈ (scan key items).kept, key kept = key item := by
  induction items using List.reverseRecOn with
  | nil => simp
  | append_singleton items item inductionHypothesis =>
    intro given member
    rw [scan_concat, Scan.next]
    split_ifs with repeated
    · rcases List.mem_append.mp member with before | last
      · exact inductionHypothesis given before
      · obtain ⟨earlier, earlierMember, same⟩ := (mem_seen key items _).mp repeated
        obtain ⟨kept, keptMember, sameKept⟩ := inductionHypothesis earlier earlierMember
        rw [List.mem_singleton.mp last]
        exact ⟨kept, keptMember, sameKept.trans same⟩
    · rcases List.mem_append.mp member with before | last
      · obtain ⟨kept, keptMember, same⟩ := inductionHypothesis given before
        exact ⟨kept, List.mem_append_left _ keptMember, same⟩
      · exact ⟨given, List.mem_append_right _ last, rfl⟩

/-- Where one key means being alike, the scan keeps the first occurrences. -/
theorem kept_firsts (alike : α → α → Bool) (items : List α)
    (agrees : ∀ one ∈ items, ∀ other ∈ items, key one = key other ↔ alike one other = true) :
    (scan key items).kept = firsts alike items := by
  induction items using List.reverseRecOn with
  | nil => rfl
  | append_singleton items item inductionHypothesis =>
    have before := inductionHypothesis (fun one oneMember other otherMember =>
      agrees one (List.mem_append_left _ oneMember) other (List.mem_append_left _ otherMember))
    have known : key item ∈ (scan key items).seen ↔
        items.any (fun earlier => alike earlier item) = true := by
      rw [mem_seen, List.any_eq_true]
      refine exists_congr fun earlier => and_congr_right fun member => ?_
      exact agrees earlier (List.mem_append_left _ member) item (by simp)
    rw [scan_concat, Scan.next, firsts_concat]
    by_cases repeated : key item ∈ (scan key items).seen
    · rw [if_pos repeated, if_pos (known.mp repeated)]
      exact before
    · rw [if_neg repeated, if_neg (fun found => repeated (known.mpr found))]
      exact congrArg (· ++ [item]) before

end Scanning

end Duplicates
