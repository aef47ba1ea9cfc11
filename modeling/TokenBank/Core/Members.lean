import TokenBank.Core.Rereading
import TokenBank.Core.Runtime

/-!
# Members of plain objects

What is read from a plain object is plain, whether it is a member, a value in its place, or
what a loop takes. The canonical text of a plain object reads as an object with the same
members, in the order of their keys and each ordered itself.
-/

namespace TokenBank

open Canonical

/-! ## Plain members -/

/-- A member of a plain object, or a plain value in its place, is plain. -/
theorem getOr_plain (fields : JsonObject) (written : plain (.obj fields) = true) (key : String)
    (other : Json) (otherwise : plain other = true) : plain (Json.getOr fields key other) = true := by
  unfold Json.getOr
  cases found : fields.find? (fun field => field.1 = key) with
  | none => exact otherwise
  | some field =>
    rw [plain, Bool.and_eq_true, plainFields_iff] at written
    exact written.2 field (List.mem_of_find?_eq_some found)

/-- A member that a plain object has is plain. -/
theorem item_plain (fields : JsonObject) (written : plain (.obj fields) = true) (key : String)
    (value : Json) (here : Json.item fields key = .ok value) : plain value = true := by
  unfold Json.item at here
  split at here
  · cases here
    exact getOr_plain fields written key .null rfl
  · cases here

/-- What is asked of a plain value is plain. -/
theorem asked_plain (value : Json) (written : plain value = true) (fields : JsonObject)
    (here : value.asked = .ok fields) : plain (.obj fields) = true := by
  cases value with
  | obj members =>
    cases here
    exact written
  | _ => cases here

/-- What a loop over a plain value takes is plain. -/
theorem iterated_plain (value : Json) (written : plain value = true) (items : List Json)
    (here : value.iterated = .ok items) : ∀ item ∈ items, plain item = true := by
  cases value with
  | arr values =>
    cases here
    rwa [plain, plainItems_iff] at written
  | obj fields =>
    cases here
    intro item stored
    obtain ⟨field, -, rfl⟩ := List.mem_map.mp stored
    rfl
  | str text =>
    cases here
    intro item stored
    obtain ⟨character, -, rfl⟩ := List.mem_map.mp stored
    rfl
  | _ => cases here

/-! ## Members read back -/

/-- The members of a plain object have keys of their own. -/
theorem plain_distinct {fields : JsonObject} (written : plain (.obj fields) = true) :
    (fields.map Prod.fst).Nodup := by
  rw [plain, Bool.and_eq_true, decide_eq_true_eq] at written
  exact written.1

/-- A member that a plain object has is there, ordered, when the object is. -/
theorem item_ordered {fields : JsonObject} (written : plain (.obj fields) = true) {key : String}
    {value : Json} (here : Json.item fields key = .ok value) :
    Json.item ((byKey fields).map (fun field => (field.1, ordered field.2))) key =
      .ok (ordered value) := by
  have distinct := plain_distinct written
  have has_found (members : JsonObject) : Json.has members key =
      (members.find? (fun field => field.1 = key)).isSome := by
    rw [Json.has, List.isSome_find?]
  rw [Json.item] at here
  split_ifs at here with present
  rw [has_found] at present
  rw [Json.item, has_found, find?_ordered fields distinct, Option.isSome_map, if_pos present,
    get_ordered fields distinct, Except.ok.inj here]

end TokenBank
