import TokenBank.Core.Loads
import TokenBank.Core.Runtime

/-!
# Sets and mappings of the source

A set takes what a loop over a value gives, each value once, and no array or object. A mapping
is made of an object, or of pairs, of which only those under a text can be asked for. Values
are sorted if they are all texts or all numbers.
-/

namespace TokenBank

namespace Json

/-- A value that may be in a set. -/
def hashed : Json → Except Raised Json
  | .arr _ => .error .typeError
  | .obj _ => .error .typeError
  | value => .ok value

/-- A value is in a set. -/
def among (values : List Json) (value : Json) : Bool := values.any (same value)

/-- A value is one of some texts. -/
def amongTexts (texts : List String) : Json → Bool
  | .str text => texts.contains text
  | _ => false

/-- The set of what a loop over a value gives. -/
def asSet (value : Json) : Except Raised (List Json) := do
  let items ← value.iterated
  let members ← items.mapM hashed
  return members.foldl (fun found item => if among found item then found else found ++ [item]) []

/-- The text of a string. -/
def textual : Json → Option String
  | .str text => some text
  | _ => none

/-- Values in order. Two of different kinds have none. -/
def sorted (values : List Json) : Except Raised (List Json) :=
  if values.length ≤ 1 then .ok values
  else
    match values.mapM textual with
    | some texts => .ok ((texts.insertionSort (fun left right => left ≤ right)).map Json.str)
    | none =>
      if values.all (fun value => value.number.isSome) then
        .ok (values.insertionSort (fun left right =>
          left.number.getD 0 ≤ right.number.getD 0))
      else .error .typeError

/-- A pair that a mapping is made of, at a place of a list. -/
def keyed (item : Json) (position : Nat) : Except Raised (Json × Json) := do
  match ← item.iterated with
  | [key, value] => return (← key.hashed, value)
  | parts => .error (.valueError ("dictionary update sequence element #" ++ toString position ++
      " has length " ++ toString parts.length ++ "; 2 is required"))

/-- The mapping of a value, as far as its keys are texts. -/
def mapped : Json → Except Raised JsonObject
  | .obj fields => .ok fields
  | value => do
    let items ← value.iterated
    let pairs ← items.zipIdx.mapM (fun (item, position) => keyed item position)
    return Canonical.objectOf (pairs.filterMap (fun pair =>
      pair.1.textual.map (fun key => (key, pair.2))))

end Json

/-- The last of the values of one key counts, and two characters are a pair. -/
example : (Json.arr [.arr [.str "a", .int 1], .str "bc", .arr [.str "a", .int 2]]).mapped =
    .ok [("a", .int 2), ("b", .str "c")] := rfl

end TokenBank
