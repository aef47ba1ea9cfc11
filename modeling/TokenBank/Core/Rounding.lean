import Mathlib
import TokenBank.Core.Doubles

/-!
# Rounding

Rounding to the nearest integer, and the even one of two that are equally near, stays within one of
the floor, keeps integers and keeps the order. So does rounding to four decimals. Operations on
finite numbers in exact arithmetic are those on the numbers themselves, and what is no number stays
so through all of them but bounds.
-/

namespace TokenBank

namespace Number

/-- A rounded number is at least the floor. -/
theorem floor_le_roundHalfEven (value : ℚ) : ⌊value⌋ ≤ roundHalfEven value := by
  unfold roundHalfEven
  dsimp only
  split_ifs <;> omega

/-- A rounded number is at most one above the floor. -/
theorem roundHalfEven_le_floor_add_one (value : ℚ) : roundHalfEven value ≤ ⌊value⌋ + 1 := by
  unfold roundHalfEven
  dsimp only
  split_ifs <;> omega

/-- Integers are rounded to themselves. -/
@[simp] theorem roundHalfEven_intCast (value : Int) : roundHalfEven (value : ℚ) = value := by
  simp [roundHalfEven]

/-- Rounding keeps the order. -/
theorem roundHalfEven_mono : Monotone roundHalfEven := by
  intro left right ordered
  rcases (Int.floor_mono ordered).lt_or_eq with less | same
  · calc roundHalfEven left ≤ ⌊left⌋ + 1 := roundHalfEven_le_floor_add_one left
      _ ≤ ⌊right⌋ := less
      _ ≤ roundHalfEven right := floor_le_roundHalfEven right
  · unfold roundHalfEven
    simp only [same]
    -- With one floor, a rounding up on the left is one on the right.
    split_ifs <;> first | omega | linarith

end Number

namespace Double

/-! ## Four decimals -/

/-- Rounding to four decimals keeps the order. -/
theorem fourDecimals_mono : Monotone fourDecimals := by
  intro left right ordered
  have scaled : left * 10000 ≤ right * 10000 := mul_le_mul_of_nonneg_right ordered (by norm_num)
  have rounded : (Number.roundHalfEven (left * 10000) : ℚ) ≤ Number.roundHalfEven (right * 10000) :=
    Int.cast_le.mpr (Number.roundHalfEven_mono scaled)
  exact div_le_div_of_nonneg_right rounded (by norm_num)

/-- Zero is rounded to zero. -/
@[simp] theorem fourDecimals_zero : fourDecimals 0 = 0 := by
  simpa [fourDecimals] using Number.roundHalfEven_intCast 0

/-- One is rounded to one. -/
@[simp] theorem fourDecimals_one : fourDecimals 1 = 1 := by
  have whole := Number.roundHalfEven_intCast 10000
  norm_num at whole
  simp [fourDecimals, whole]

/-- What is not negative is rounded to what is not negative. -/
theorem fourDecimals_nonneg (value : ℚ) (nonNegative : 0 ≤ value) : 0 ≤ fourDecimals value := by
  simpa using fourDecimals_mono nonNegative

/-- Rounding stays between zero and one. -/
theorem fourDecimals_mem_unit (value : ℚ) (within : value ∈ Set.Icc 0 1) :
    fourDecimals value ∈ Set.Icc 0 1 :=
  ⟨fourDecimals_nonneg value within.1, by simpa using fourDecimals_mono within.2⟩

/-! ## Order -/

/-- The order of finite numbers is that of the numbers. -/
@[simp] theorem finite_le_finite (left right : ℚ) :
    (Double.finite left ≤ .finite right) ↔ left ≤ right := by
  change atMost (.finite left) (.finite right) = true ↔ _
  simp [atMost, less, le_iff_lt_or_eq]

/-- The lesser of finite numbers. -/
@[simp] theorem least_finite (left right : ℚ) :
    least (.finite left) (.finite right) = .finite (min left right) := by
  by_cases below : right < left
  · simp [least, less, below, min_eq_right below.le]
  · simp [least, less, below, min_eq_left (not_lt.mp below)]

/-- The greater of finite numbers. -/
@[simp] theorem greatest_finite (left right : ℚ) :
    greatest (.finite left) (.finite right) = .finite (max left right) := by
  by_cases above : left < right
  · simp [greatest, less, above, max_eq_right above.le]
  · simp [greatest, less, above, max_eq_left (not_lt.mp above)]

/-- What is no number is not taken for the lesser one. -/
@[simp] theorem least_nan (left : Double) : least left .nan = left := by
  cases left <;> rfl

/-- A number is finite, and between zero and one. -/
def InUnit (number : Double) : Prop := ∃ value ∈ Set.Icc (0 : ℚ) 1, number = .finite value

/-- A finite number is between zero and one exactly if it is there as a number. -/
@[simp] theorem inUnit_finite_iff (value : ℚ) : InUnit (.finite value) ↔ value ∈ Set.Icc 0 1 := by
  simp [InUnit]

/-- Whatever is bounded by zero and one is between them. -/
theorem bounded_inUnit (number : Double) :
    InUnit (greatest (.finite 0) (least (.finite 1) number)) := by
  cases number with
  | finite value =>
    rw [least_finite, greatest_finite, inUnit_finite_iff]
    exact ⟨le_max_left _ _, max_le zero_le_one (min_le_left _ _)⟩
  | infinity positive =>
    cases positive with
    | true => exact ⟨1, by norm_num, rfl⟩
    | false => exact ⟨0, by norm_num, rfl⟩
  | nan => exact ⟨1, by norm_num, rfl⟩

section Undefined

variable (nearest : ℚ → Double) (number : Double)

/-- No number and a number have no sum. -/
@[simp] theorem add_nan : add nearest number .nan = .nan := by
  cases number <;> rfl

/-- A number and no number have no sum. -/
@[simp] theorem nan_add : add nearest .nan number = .nan := by
  cases number <;> rfl

/-- Numbers one of which is none have no sum. -/
theorem plainSum_nan (numbers : List Double) (listed : .nan ∈ numbers) :
    plainSum nearest numbers = .nan := by
  have stays (rest : List Double) : rest.foldl (add nearest) .nan = .nan := by
    induction rest with
    | nil => rfl
    | cons first rest inductionHypothesis => rw [List.foldl_cons, nan_add, inductionHypothesis]
  obtain ⟨before, after, rfl⟩ := List.append_of_mem listed
  rw [plainSum, List.foldl_append, List.foldl_cons, add_nan, stays]

/-- Only finite numbers have a finite sum. -/
theorem plainSum_finite (numbers : List Double) (value : ℚ)
    (added : plainSum nearest numbers = .finite value) :
    ∀ number ∈ numbers, ∃ value, number = .finite value := by
  have both (left right : Double) (sum : ∃ value, add nearest left right = .finite value) :
      (∃ value, left = .finite value) ∧ ∃ value, right = .finite value := by
    obtain ⟨value, added⟩ := sum
    cases left <;> cases right <;> simp [add] at added ⊢
    split at added <;> cases added
  have all (rest : List Double) (total : Double)
      (sum : ∃ value, rest.foldl (add nearest) total = .finite value) :
      (∃ value, total = .finite value) ∧ ∀ number ∈ rest, ∃ value, number = .finite value := by
    induction rest generalizing total with
    | nil => exact ⟨sum, by simp⟩
    | cons first rest inductionHypothesis =>
      obtain ⟨partly, others⟩ := inductionHypothesis _ sum
      obtain ⟨own, next⟩ := both _ _ partly
      exact ⟨own, List.forall_mem_cons.mpr ⟨next, others⟩⟩
  exact (all numbers _ ⟨value, added⟩).2

end Undefined

end Double

/-! ## Exact arithmetic -/

namespace Arithmetic

section Exact

variable (left right : ℚ)

/-- Numbers are what they are. -/
@[simp] theorem exact_nearest : exact.nearest left = .finite left := rfl

/-- Sums are exact. -/
@[simp] theorem exact_add : exact.add (.finite left) (.finite right) = .finite (left + right) := rfl

/-- Differences are exact. -/
@[simp] theorem exact_sub : exact.sub (.finite left) (.finite right) = .finite (left - right) := by
  rw [sub_eq_add_neg]
  rfl

/-- Products are exact. -/
@[simp] theorem exact_mul : exact.mul (.finite left) (.finite right) = .finite (left * right) := rfl

/-- Quotients are exact. -/
@[simp] theorem exact_div : exact.div (.finite left) (.finite right) = .finite (left / right) := rfl

/-- Four decimals are exact. -/
@[simp] theorem exact_round4 : exact.round4 (.finite left) = .finite (Double.fourDecimals left) := rfl

/-- Integers are what they are. -/
@[simp] theorem exact_ofInt (value : Int) : exact.ofInt value = .ok (.finite value) := rfl

/-- Numbers are added up exactly. -/
@[simp] theorem exact_sum (numbers : List ℚ) :
    exact.sum (numbers.map .finite) = .finite numbers.sum := by
  have added (rest : List ℚ) (total : ℚ) : (rest.map Double.finite).foldl (Double.add .finite)
      (.finite total) = .finite (total + rest.sum) := by
    induction rest generalizing total with
    | nil => simp
    | cons first rest inductionHypothesis =>
      rw [List.map_cons, List.foldl_cons, List.sum_cons, ← add_assoc]
      exact inductionHypothesis (total + first)
  simpa [exact, Double.plainSum] using added numbers 0

/-- What is not negative has a sum that is not negative. -/
theorem exact_sum_not_negative (numbers : List Double)
    (notNegative : ∀ number ∈ numbers, number.less (.finite 0) = false) :
    (exact.sum numbers).less (.finite 0) = false := by
  have step (left right : Double) (own : left.less (.finite 0) = false)
      (other : right.less (.finite 0) = false) :
      (Double.add .finite left right).less (.finite 0) = false := by
    cases left <;> cases right <;> simp_all [Double.add, Double.less]
    exact add_nonneg own other
  have added (rest : List Double) (total : Double) (own : total.less (.finite 0) = false)
      (others : ∀ number ∈ rest, number.less (.finite 0) = false) :
      (rest.foldl (Double.add .finite) total).less (.finite 0) = false := by
    induction rest generalizing total with
    | nil => exact own
    | cons first rest inductionHypothesis =>
      obtain ⟨next, others⟩ := List.forall_mem_cons.mp others
      exact inductionHypothesis _ (step total first own next) others
  exact added numbers _ rfl notNegative

/-- Numbers between zero and one have a mean between zero and one. -/
theorem exact_mean_inUnit (numbers : List Double) (filled : numbers ≠ [])
    (within : ∀ number ∈ numbers, number.InUnit) :
    (exact.div (exact.sum numbers) (exact.nearest numbers.length)).InUnit := by
  obtain ⟨values, bounded, rfl⟩ : ∃ values : List ℚ,
      (∀ value ∈ values, value ∈ Set.Icc (0 : ℚ) 1) ∧ numbers = values.map .finite := by
    clear filled
    induction numbers with
    | nil => exact ⟨[], by simp, rfl⟩
    | cons first rest inductionHypothesis =>
      obtain ⟨⟨value, own, rfl⟩, others⟩ := List.forall_mem_cons.mp within
      obtain ⟨values, bounded, rfl⟩ := inductionHypothesis others
      exact ⟨value :: values, List.forall_mem_cons.mpr ⟨own, bounded⟩, rfl⟩
  have positive : (0 : ℚ) < values.length := by
    simpa [List.length_pos_iff] using filled
  have nonNegative : 0 ≤ values.sum := List.sum_nonneg (fun value listed => (bounded value listed).1)
  have most : values.sum ≤ values.length • (1 : ℚ) :=
    List.sum_le_card_nsmul _ _ (fun value listed => (bounded value listed).2)
  rw [exact_sum, exact_nearest, exact_div, List.length_map, Double.inUnit_finite_iff]
  refine ⟨div_nonneg nonNegative positive.le, (div_le_one positive).mpr ?_⟩
  simpa using most

end Exact

end Arithmetic

end TokenBank
