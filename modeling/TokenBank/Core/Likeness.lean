import TokenBank.Core.Rereading

/-!
# Values alike

Two values are alike if they differ in the order of the members of their objects alone, at
every depth. Numbers are alike if they are written alike, so that one, one point zero and
true are three different values. Plain values are alike exactly if they have one canonical
text.
-/

namespace TokenBank

open Canonical

namespace Json

mutual
/-- The two values are equal up to the order of members. -/
def alike : Json → Json → Bool
  | .null, .null => true
  | .bool value, .bool other => value == other
  | .int value, .int other => value == other
  | .float text, .float other => text == other
  | .str text, .str other => text == other
  | .arr items, .arr others => alikeItems items others
  | .obj fields, .obj others => fields.length == others.length && alikeFields fields others
  | _, _ => false

/-- The two arrays have items alike, one by one. -/
def alikeItems : List Json → List Json → Bool
  | [], [] => true
  | item :: rest, other :: others => alike item other && alikeItems rest others
  | _, _ => false

/-- Every member of one object is in another one, with a value like it. -/
def alikeFields : List (String × Json) → JsonObject → Bool
  | [], _ => true
  | (key, value) :: rest, others =>
    has others key && alike value (get others key) && alikeFields rest others
end

end Json

/-- The order of keys makes no difference, at any depth; the way a number is written does. -/
example : Json.alike (.arr [.obj [("a", .obj [("x", .null), ("y", .str "")]), ("b", .int 1)]])
      (.arr [.obj [("b", .int 1), ("a", .obj [("y", .str ""), ("x", .null)])]]) = true ∧
    Json.alike (.int 1) (.float "1.0") = false ∧ Json.alike (.int 1) (.bool true) = false ∧
    Json.alike (.arr []) (.obj []) = false := by decide +kernel

namespace Canonical

/-- The member found under a key, which is there. -/
theorem get_of_mem (fields : JsonObject) (distinct : (fields.map Prod.fst).Nodup)
    (field : String × Json) (member : field ∈ fields) : Json.get fields field.1 = field.2 := by
  rw [Json.get, find?_of_mem fields distinct field member]
  rfl

/-- A key that an object has belongs to the member found under it. -/
theorem mem_of_has (fields : JsonObject) (key : String) (present : Json.has fields key = true) :
    (key, Json.get fields key) ∈ fields := by
  obtain ⟨field, member, same⟩ := List.any_eq_true.mp present
  have found : (fields.find? (fun field => field.1 = key)).isSome = true :=
    List.find?_isSome.mpr ⟨field, member, same⟩
  obtain ⟨first, given⟩ := Option.isSome_iff_exists.mp found
  have named : first.1 = key := by simpa using List.find?_some given
  have value : Json.get fields key = first.2 := by rw [Json.get, given]; rfl
  rw [value, ← named]
  exact List.mem_of_find?_eq_some given

/-- Members with distinct keys come out in one order exactly if they are the same ones. -/
theorem byKey_eq_iff {α : Type} (fields others : List (String × α))
    (distinct : (fields.map Prod.fst).Nodup) (otherDistinct : (others.map Prod.fst).Nodup) :
    byKey fields = byKey others ↔
      fields.length = others.length ∧ ∀ field ∈ fields, field ∈ others := by
  have sorting : (byKey fields).Perm fields := List.perm_insertionSort _ fields
  have otherSorting : (byKey others).Perm others := List.perm_insertionSort _ others
  constructor
  · intro same
    have permuted : fields.Perm others := sorting.symm.trans (same ▸ otherSorting)
    exact ⟨permuted.length_eq, fun field member => permuted.mem_iff.mp member⟩
  · rintro ⟨sameLength, contained⟩
    have total : Std.Total (fun left right : String × α => left.1 ≤ right.1) :=
      ⟨fun left right => le_total left.1 right.1⟩
    have trans : IsTrans (String × α) (fun left right => left.1 ≤ right.1) :=
      ⟨fun _ _ _ => le_trans⟩
    have permuted : fields.Perm others :=
      (List.subperm_of_subset distinct.of_map contained).perm_of_length_le sameLength.ge
    refine List.Perm.eq_of_pairwise ?_ (List.pairwise_insertionSort _ fields)
      (List.pairwise_insertionSort _ others) (sorting.trans (permuted.trans otherSorting.symm))
    intro one other oneMember otherMember below above
    have oneListed : one ∈ others := contained one (sorting.mem_iff.mp oneMember)
    have otherListed : other ∈ others := otherSorting.mem_iff.mp otherMember
    exact List.inj_on_of_nodup_map otherDistinct oneListed otherListed (le_antisymm below above)

/-- Ordering the values of members keeps the keys. -/
theorem orderedFields_keys (fields : JsonObject) :
    (orderedFields fields).map Prod.fst = fields.map Prod.fst := by
  rw [orderedFields_map, List.map_map]
  rfl

mutual
/-- Plain values are alike exactly if they are the same when ordered. -/
theorem alike_iff_ordered : ∀ left right, plain left = true → plain right = true →
    (Json.alike left right = true ↔ ordered left = ordered right)
  | .null, right, _, _ => by cases right <;> simp [Json.alike, ordered]
  | .bool value, right, _, _ => by cases right <;> simp [Json.alike, ordered]
  | .int value, right, _, _ => by cases right <;> simp [Json.alike, ordered]
  | .float text, right, _, _ => by cases right <;> simp [Json.alike, ordered]
  | .str text, right, _, _ => by cases right <;> simp [Json.alike, ordered]
  | .arr items, right, plainLeft, plainRight => by
    cases right with
    | arr others =>
      rw [Json.alike, ordered, ordered, Json.arr.injEq]
      exact alikeItems_iff_ordered items others plainLeft plainRight
    | _ => simp [Json.alike, ordered]
  | .obj fields, right, plainLeft, plainRight => by
    cases right with
    | obj others =>
      rw [plain, Bool.and_eq_true, decide_eq_true_eq] at plainLeft
      have distinct := (orderedFields_keys fields).symm ▸ plainLeft.1
      have otherDistinct : ((orderedFields others).map Prod.fst).Nodup := by
        rw [plain, Bool.and_eq_true, decide_eq_true_eq] at plainRight
        exact (orderedFields_keys others).symm ▸ plainRight.1
      rw [Json.alike, ordered, ordered, Json.obj.injEq, byKey_eq_iff _ _ distinct otherDistinct,
        Bool.and_eq_true, beq_iff_eq, alikeFields_iff_ordered fields others plainLeft.2 plainRight,
        orderedFields_map, orderedFields_map, List.length_map, List.length_map]
    | _ => simp [Json.alike, ordered]

/-- Plain items are alike exactly if they are the same when ordered. -/
theorem alikeItems_iff_ordered : ∀ items others, plainItems items = true →
    plainItems others = true →
    (Json.alikeItems items others = true ↔ orderedItems items = orderedItems others)
  | [], others, _, _ => by cases others <;> simp [Json.alikeItems, orderedItems]
  | item :: rest, others, plainLeft, plainRight => by
    cases others with
    | nil => simp [Json.alikeItems, orderedItems]
    | cons other others =>
      rw [plainItems, Bool.and_eq_true] at plainLeft plainRight
      rw [Json.alikeItems, orderedItems, orderedItems, Bool.and_eq_true, List.cons.injEq,
        alike_iff_ordered item other plainLeft.1 plainRight.1,
        alikeItems_iff_ordered rest others plainLeft.2 plainRight.2]

/-- Plain members are alike exactly if, ordered, they are among those of the other object. -/
theorem alikeFields_iff_ordered : ∀ (fields : List (String × Json)) (others : JsonObject),
    plainFields fields = true → plain (.obj others) = true →
    (Json.alikeFields fields others = true ↔
      ∀ field ∈ orderedFields fields, field ∈ orderedFields others)
  | [], _, _, _ => by simp [Json.alikeFields, orderedFields]
  | (key, value) :: rest, others, plainLeft, plainRight => by
    rw [plainFields, Bool.and_eq_true] at plainLeft
    have inner := alikeFields_iff_ordered rest others plainLeft.2 plainRight
    rw [Json.alikeFields, orderedFields, List.forall_mem_cons, Bool.and_eq_true, inner]
    refine and_congr_left fun _ => ?_
    rw [plain, Bool.and_eq_true, decide_eq_true_eq, plainFields_iff] at plainRight
    rw [Bool.and_eq_true, orderedFields_map, List.mem_map]
    constructor
    · rintro ⟨present, similar⟩
      have member := mem_of_has others key present
      have same := (alike_iff_ordered value _ plainLeft.1 (plainRight.2 _ member)).mp similar
      exact ⟨_, member, by rw [same]⟩
    · rintro ⟨field, member, same⟩
      obtain ⟨named, sameValue⟩ := Prod.mk.injEq _ _ _ _ ▸ same
      have found := get_of_mem others plainRight.1 field member
      rw [named] at found
      refine ⟨List.any_eq_true.mpr ⟨field, member, by simpa using named⟩, ?_⟩
      rw [alike_iff_ordered value _ plainLeft.1 (found ▸ plainRight.2 field member), found, sameValue]
end

/-- Plain values are alike exactly if they have one canonical text. -/
theorem alike_iff_text (left right : Json) (plainLeft : plain left = true)
    (plainRight : plain right = true) :
    Json.alike left right = true ↔ canonicalJsonDumps left = canonicalJsonDumps right := by
  rw [alike_iff_ordered left right plainLeft plainRight]
  constructor
  · intro same
    rw [← canonicalJsonDumps_ordered left, same, canonicalJsonDumps_ordered]
  · exact ordered_of_same_text left right plainLeft plainRight

end Canonical

end TokenBank
