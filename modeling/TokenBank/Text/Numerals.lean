import Mathlib.Algebra.Ring.Nat
import Mathlib.Data.List.Basic
import Mathlib.Tactic.Tauto

/-!
# Numbers written with a fixed width

A number below a power of ten has one numeral of that width, and the order of the numerals as texts
is that of the numbers. Numbers that are written one after the other, each with its width and a mark
behind it, are ordered as the list of the numbers is, and then as what follows them.
-/

namespace Text

/-- The last digits of a number. -/
def numeral : Nat → Nat → List Char
  | 0, _ => []
  | width + 1, value => numeral width (value / 10) ++ [Nat.digitChar (value % 10)]

/-- Numbers, each with its width and followed by its mark. -/
def written : List (Nat × List Char) → List Nat → List Char
  | (width, mark) :: shape, value :: values => numeral width value ++ mark ++ written shape values
  | _, _ => []

/-- There are as many numbers as widths, and each number has a numeral of its width. -/
def Fits (shape : List (Nat × List Char)) (values : List Nat) : Prop :=
  List.Forall₂ (fun entry value => value < 10 ^ entry.1) shape values

/-- A numeral is as long as its width. -/
theorem numeral_length (width value : Nat) : (numeral width value).length = width := by
  induction width generalizing value with
  | zero => rfl
  | succ width inductionHypothesis => simp [numeral, inductionHypothesis]

/-- Texts that start with texts of one length are ordered as these are, and then as their rests. -/
theorem append_lt_append_iff (first second more others : List Char)
    (same : first.length = second.length) :
    first ++ more < second ++ others ↔ first < second ∨ first = second ∧ more < others := by
  induction first generalizing second with
  | nil =>
    cases List.eq_nil_of_length_eq_zero same.symm
    simp
  | cons character rest inductionHypothesis =>
    cases second with
    | nil => cases same
    | cons next after =>
      rw [List.cons_append, List.cons_append, List.cons_lt_cons_iff, List.cons_lt_cons_iff,
        inductionHypothesis after (Nat.succ.inj same), List.cons.injEq]
      constructor
      · rintro (less | ⟨rfl, less | ⟨rfl, less⟩⟩)
        · exact .inl (.inl less)
        · exact .inl (.inr ⟨rfl, less⟩)
        · exact .inr ⟨⟨rfl, rfl⟩, less⟩
      · rintro ((less | ⟨rfl, less⟩) | ⟨⟨rfl, rfl⟩, less⟩)
        · exact .inl less
        · exact .inr ⟨rfl, .inl less⟩
        · exact .inr ⟨rfl, .inr ⟨rfl, less⟩⟩

/-- Digits are ordered and told apart as characters. -/
theorem digitChar_order : ∀ digit < 10, ∀ other < 10,
    (Nat.digitChar digit < Nat.digitChar other ↔ digit < other) ∧
      (Nat.digitChar digit = Nat.digitChar other ↔ digit = other) := by
  decide

/-- Numerals of one width are ordered and told apart as the numbers. -/
theorem numeral_order (width value other : Nat) (fits : value < 10 ^ width)
    (other_fits : other < 10 ^ width) :
    (numeral width value < numeral width other ↔ value < other) ∧
      (numeral width value = numeral width other ↔ value = other) := by
  induction width generalizing value other with
  | zero =>
    rw [Nat.pow_zero, Nat.lt_one_iff] at fits other_fits
    subst fits other_fits
    simp [numeral]
  | succ width inductionHypothesis =>
    obtain ⟨less, same⟩ := inductionHypothesis (value / 10) (other / 10)
      (Nat.div_lt_of_lt_mul (by rwa [Nat.pow_succ, Nat.mul_comm] at fits))
      (Nat.div_lt_of_lt_mul (by rwa [Nat.pow_succ, Nat.mul_comm] at other_fits))
    obtain ⟨last_less, last_same⟩ := digitChar_order (value % 10) (Nat.mod_lt _ (by decide))
      (other % 10) (Nat.mod_lt _ (by decide))
    have equally_long : (numeral width (value / 10)).length = (numeral width (other / 10)).length := by
      rw [numeral_length, numeral_length]
    constructor
    · rw [numeral, numeral, append_lt_append_iff _ _ _ _ equally_long, less, same,
        List.cons_lt_cons_iff, last_less]
      simp only [List.not_lt_nil, and_false, or_false]
      omega
    · rw [numeral, numeral]
      constructor
      · intro written
        obtain ⟨front, last⟩ := List.append_inj written equally_long
        have tens := same.mp front
        have ones := last_same.mp (List.cons.inj last).1
        omega
      · rintro rfl
        rfl

/-- Numbers written in one shape are ordered as the list of the numbers is, and then as what follows
them. -/
theorem written_lt_iff (shape : List (Nat × List Char)) (values others : List Nat)
    (fits : Fits shape values) (others_fit : Fits shape others) (more after : List Char) :
    written shape values ++ more < written shape others ++ after ↔
      values < others ∨ values = others ∧ more < after := by
  induction shape generalizing values others with
  | nil =>
    cases fits
    cases others_fit
    simp [written]
  | cons entry shape inductionHypothesis =>
    obtain ⟨width, mark⟩ := entry
    cases fits with
    | cons fits_here fits_later =>
      cases others_fit with
      | cons other_here others_later =>
        rename_i value values other others
        obtain ⟨less, same⟩ := numeral_order width value other fits_here other_here
        rw [written, written, List.append_assoc, List.append_assoc, List.append_assoc,
          List.append_assoc, append_lt_append_iff _ _ _ _ (by rw [numeral_length, numeral_length]),
          append_lt_append_iff mark mark _ _ rfl, inductionHypothesis _ _ fits_later others_later,
          less, same, List.cons_lt_cons_iff, List.cons.injEq]
        simp only [List.lt_irrefl, false_or, true_and]
        tauto

end Text
