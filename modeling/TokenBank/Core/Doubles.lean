import TokenBank.Core.Values
import TokenBank.Db.Schema

/-!
# Floating-point arithmetic

What a program makes of numbers that it computes with as floating-point numbers. Every operation
is the exact one on numbers that are finite, followed by a rounding, and rounding is a parameter:
one definition of a computation has a meaning in doubles and an exact one. How a list is added up
is a parameter, too, since the source's language has done it in more than one way.
-/

namespace TokenBank

/-- A floating-point number. Zeros of either sign are one: nothing is divided by zero here. -/
inductive Double : Type
  | finite (value : ℚ)
  | infinity (positive : Bool)
  | nan
deriving DecidableEq

namespace Double

/-! ## Order -/

/-- Whether a number is less than another one. What is no number is less than nothing, and nothing
is less than it. -/
def less : Double → Double → Bool
  | .finite left, .finite right => left < right
  | .finite _, .infinity positive => positive
  | .infinity positive, .finite _ => !positive
  | .infinity left, .infinity right => !left && right
  | _, _ => false

/-- Whether a number is at most another one. What is no number is not even at most itself. -/
def atMost (left right : Double) : Bool := left.less right || (left != .nan && left = right)

instance : LE Double := ⟨fun left right => left.atMost right = true⟩

instance : DecidableLE Double := fun _ _ => inferInstanceAs (Decidable (_ = true))

/-- The first of two numbers, unless the second is less. -/
def least (left right : Double) : Double := if right.less left then right else left

/-- The first of two numbers, unless the second is greater. -/
def greatest (left right : Double) : Double := if left.less right then right else left

/-! ## Operations -/

/-- A number with the other sign. -/
def negated : Double → Double
  | .finite value => .finite (-value)
  | .infinity positive => .infinity !positive
  | .nan => .nan

/-- A number without its sign. -/
def magnitude : Double → Double
  | .finite value => .finite |value|
  | .infinity _ => .infinity true
  | .nan => .nan

section Rounded

variable (nearest : ℚ → Double)

/-- A sum. -/
def add : Double → Double → Double
  | .finite left, .finite right => nearest (left + right)
  | .infinity left, .infinity right => if left = right then .infinity left else .nan
  | .infinity positive, .finite _ => .infinity positive
  | .finite _, .infinity positive => .infinity positive
  | _, _ => .nan

/-- A product. -/
def mul : Double → Double → Double
  | .finite left, .finite right => nearest (left * right)
  | .infinity left, .infinity right => .infinity (left = right)
  | .infinity positive, .finite value => if value = 0 then .nan else .infinity (positive = (0 < value))
  | .finite value, .infinity positive => if value = 0 then .nan else .infinity (positive = (0 < value))
  | _, _ => .nan

/-- A quotient by a number that is not zero. -/
def div : Double → Double → Double
  | .finite left, .finite right => nearest (left / right)
  | .finite _, .infinity _ => .finite 0
  | .infinity positive, .finite value => .infinity (positive = (0 < value))
  | _, _ => .nan

/-- Numbers added up one after the other. -/
def plainSum (numbers : List Double) : Double := numbers.foldl (add nearest) (.finite 0)

/-- Add a number to a total, and what is lost by it to the compensation. -/
def compensate (total : Double × Double) (number : Double) : Double × Double :=
  let next := add nearest total.1 number
  let sub left right := add nearest left (negated right)
  (next, add nearest total.2 (if number.magnitude ≤ total.1.magnitude then
      add nearest (sub total.1 next) number
    else add nearest (sub number next) total.1))

/-- Numbers added up one after the other, and at last what was lost on the way. -/
def compensatedSum (numbers : List Double) : Double :=
  let total := numbers.foldl (compensate nearest) (.finite 0, .finite 0)
  match total.2 with
  | .finite lost => if lost = 0 then total.1 else add nearest total.1 total.2
  | _ => total.1

end Rounded

/-- The greatest double. -/
def largest : ℚ := (2 - 2 ^ (-52 : Int)) * 2 ^ (1023 : Int)

/-- The double nearest to a number. -/
def ofRat (value : ℚ) : Double :=
  let rounded := Number.nearestDouble value
  if largest < |rounded| then .infinity (0 < value) else .finite rounded

/-- A number rounded to four decimals, to the even one of two that are equally near. -/
def fourDecimals (value : ℚ) : ℚ := Number.roundHalfEven (value * 10000) / 10000

end Double

/-- How computations are carried out: what the exact result of an operation and a number with four
decimals are rounded to, and how lists are added up. -/
structure Arithmetic where
  nearest : ℚ → Double
  decimals : ℚ → Double
  sum : List Double → Double

/-- A number as it is read from a document: an integer or a float. Truth values count as zero and
one. -/
inductive PythonNumber : Type
  | int (value : Int)
  | float (value : Double)
deriving DecidableEq

namespace PythonNumber

/-- The number is less than zero. -/
def negative : PythonNumber → Bool
  | .int value => value < 0
  | .float value => value.less (.finite 0)

end PythonNumber

namespace Arithmetic

/-- The arithmetic of doubles. Before its version 3.12 the source's language had plain sums. -/
def double : Arithmetic where
  nearest := .ofRat
  decimals value := .ofRat (Double.fourDecimals value)
  sum := .compensatedSum .ofRat

/-- Exact arithmetic, with rounding to four decimals where that is asked for. -/
def exact : Arithmetic where
  nearest := .finite
  decimals value := .finite (Double.fourDecimals value)
  sum := .plainSum .finite

variable (arithmetic : Arithmetic)

/-- A sum. -/
def add (left right : Double) : Double := .add arithmetic.nearest left right

/-- A difference. -/
def sub (left right : Double) : Double := .add arithmetic.nearest left right.negated

/-- A product. -/
def mul (left right : Double) : Double := .mul arithmetic.nearest left right

/-- A quotient. -/
def div (left right : Double) : Double := .div arithmetic.nearest left right

/-- A number rounded to four decimals. -/
def round4 : Double → Double
  | .finite value => arithmetic.decimals value
  | number => number

/-- An integer as a float. One that no float is near raises an exception. -/
def ofInt (value : Int) : Except Raised Double :=
  match arithmetic.nearest value with
  | .finite number => .ok (.finite number)
  | _ => .error .overflowError

/-- A number as a float. -/
def float : PythonNumber → Except Raised Double
  | .int value => arithmetic.ofInt value
  | .float value => .ok value

end Arithmetic

/-- Rounding counts: a quarter of a number with four decimals is rounded down as a double, and up
as an exact number. -/
example :
    Arithmetic.double.round4 (Arithmetic.double.mul (Arithmetic.double.nearest (1 / 4))
      (Arithmetic.double.nearest (1214 / 10000))) = Double.ofRat (303 / 10000) ∧
    Arithmetic.exact.round4 (Arithmetic.exact.mul (.finite (1 / 4)) (.finite (1214 / 10000))) =
      .finite (304 / 10000) := by
  decide +kernel

end TokenBank
