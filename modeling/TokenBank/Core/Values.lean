import Mathlib.Algebra.Order.Round
import Mathlib.Data.Rat.Floor
import TokenBank.Core.Json

/-!
# Reading JSON values

How the source reads a value it has parsed: the member of an object or nothing, truth,
numbers, and equality. A floating-point number is the double nearest to the decimal it
is written as; JSON numbers are finite. Equality compares numbers by value, whatever
their kind, and objects whatever the order of their members.
-/

namespace TokenBank

namespace Number

/-- The nearest integer, and the even one of two that are equally near. -/
def roundHalfEven (value : ℚ) : Int :=
  let below := ⌊value⌋
  if value - below < 1 / 2 then below
  else if 1 / 2 < value - below then below + 1
  else if below % 2 = 0 then below
  else below + 1

/-- The exponent of the largest power of two that is at most a positive number. -/
def binaryExponent (value : ℚ) : Int :=
  let exponent : Int := (Nat.log2 value.num.natAbs : Int) - Nat.log2 value.den
  if (2 : ℚ) ^ exponent ≤ |value| then exponent else exponent - 1

/-- The double nearest to a number: 53 significant bits, fewer near zero. -/
def nearestDouble (value : ℚ) : ℚ :=
  if value = 0 then 0
  else
    let unit : ℚ := 2 ^ max (binaryExponent value - 52) (-1074)
    roundHalfEven (value / unit) * unit

/-- The natural number that a non-empty run of decimal digits writes. -/
def digits (text : List Char) : Option Nat :=
  if text.isEmpty || text.any (fun character => !character.isDigit) then none
  else some (text.foldl (fun value character => value * 10 + (character.toNat - 48)) 0)

/-- The integer that an optional sign and decimal digits write. -/
def signedDigits : List Char → Option Int
  | '-' :: text => (digits text).map (fun value => -(value : Int))
  | '+' :: text => (digits text).map Int.ofNat
  | text => (digits text).map Int.ofNat

/-- The number that digits, an optional fraction and an optional exponent write. -/
def unsignedDecimal (text : List Char) : Option ℚ := do
  let mantissa := text.takeWhile (fun character => character != 'e')
  let whole := mantissa.takeWhile (fun character => character != '.')
  let fraction := (mantissa.drop whole.length).drop 1
  let significand ← digits (whole ++ fraction)
  let exponent ←
    if mantissa.length = text.length then some 0 else signedDigits (text.drop (mantissa.length + 1))
  return significand * (10 : ℚ) ^ (exponent - fraction.length)

/-- The number that the text of a float writes. -/
def decimal : List Char → Option ℚ
  | '-' :: text => (unsignedDecimal text).map (fun value => -value)
  | text => unsignedDecimal text

end Number

namespace Json

/-- The member of an object under a key, and null when there is none. -/
def get (fields : JsonObject) (key : String) : Json :=
  ((fields.find? (fun field => field.1 = key)).map Prod.snd).getD .null

/-- The object has a member under a key. -/
def has (fields : JsonObject) (key : String) : Bool := fields.any (fun field => field.1 = key)

/-- The value of a number. Truth values count as zero and one. -/
def number : Json → Option ℚ
  | .bool value => some (if value then 1 else 0)
  | .int value => some value
  | .float text => (Number.decimal text.toList).map Number.nearestDouble
  | _ => none

/-- The value of an integer. Truth values count as zero and one. -/
def integer : Json → Option Int
  | .bool value => some (if value then 1 else 0)
  | .int value => some value
  | _ => none

/-- The value is an integer or a float, and no truth value. -/
def isNumber : Json → Bool
  | .int _ => true
  | .float _ => true
  | _ => false

/-- The value counts as true in a condition. -/
def truthy : Json → Bool
  | .null => false
  | .bool value => value
  | .int value => value != 0
  | .float text => (Json.float text).number != some 0
  | .str text => text != ""
  | .arr items => !items.isEmpty
  | .obj fields => !fields.isEmpty

/-- The text of a string that is not empty. -/
def nonEmptyText : Json → Option String
  | .str text => if text = "" then none else some text
  | _ => none

mutual
/-- The two values are equal. -/
def same : Json → Json → Bool
  | .null, .null => true
  | .str text, .str other => text == other
  | .arr items, .arr others => sameItems items others
  | .obj fields, .obj others => fields.length == others.length && sameFields fields others
  | value, other =>
    match value.number, other.number with
    | some left, some right => left == right
    | _, _ => false

/-- The two arrays have equal items, one by one. -/
def sameItems : List Json → List Json → Bool
  | [], [] => true
  | item :: rest, other :: others => same item other && sameItems rest others
  | _, _ => false

/-- Every member of one object is in another one, with an equal value. -/
def sameFields : List (String × Json) → JsonObject → Bool
  | [], _ => true
  | (key, value) :: rest, others =>
    has others key && same value (get others key) && sameFields rest others
end

/-- Members are compared by key, and numbers by value. -/
example : same (.obj [("a", .int 1), ("b", .str "x")]) (.obj [("b", .str "x"), ("a", .float "1.0")])
    = true := by decide +kernel

/-- A float is its nearest double: this one is not the integer it is written as. -/
example : same (.float "1e+23") (.int 100000000000000000000000) = false := by decide +kernel

/-- A string is equal to nothing but the same string. -/
theorem same_str (text : String) (other : Json) :
    same (.str text) other = true ↔ other = .str text := by
  cases other with
  | str written =>
    simp only [same, beq_iff_eq, Json.str.injEq]
    exact eq_comm
  | null => simp [same, number]
  | bool value => simp [same, number]
  | int value => simp [same, number]
  | float written => simp [same, number]
  | arr items => simp [same, number]
  | obj fields => simp [same, number]

end Json

end TokenBank
