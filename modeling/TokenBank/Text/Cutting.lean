import Mathlib.Data.List.Infix
import Mathlib.Data.List.TakeWhile

/-!
# Cutting a text at the matches of a pattern

A pattern answers with the length of its match at the start of a text. A text is cut at its
matches from left to right, none of which overlaps the one before it, and the parts between
them are what is left. Several patterns cut one after another, each the parts that the ones
before it have left.
-/

namespace Text

variable {α : Type}

/-- A part of a text and the place it starts at. -/
structure Part (α : Type) where
  start : Nat
  text : List α

/-- A character in front of the first of some parts. -/
def grown (place : Nat) (character : α) : List (Part α) → List (Part α)
  | [] => []
  | first :: later => ⟨place, character :: first.text⟩ :: later

/-- The parts of a text, which starts at a place, that the matches of a pattern leave after the
characters that remain of a match. -/
def cut (pattern : List α → Option Nat) : Nat → Nat → List α → List (Part α)
  | _, place, [] => [⟨place, []⟩]
  | skipped + 1, place, _ :: rest => cut pattern skipped (place + 1) rest
  | 0, place, character :: rest =>
    match pattern (character :: rest) with
    | some length => ⟨place, []⟩ :: cut pattern (length - 1) (place + 1) rest
    | none => grown place character (cut pattern 0 (place + 1) rest)

/-- The parts that patterns leave of some parts, one pattern after another. -/
def cutAll (patterns : List (List α → Option Nat)) (parts : List (Part α)) : List (Part α) :=
  patterns.foldl (fun left pattern =>
    left.flatMap (fun part => cut pattern 0 part.start part.text)) parts

/-- A pattern matches characters, and goes on matching when a text goes on. -/
structure Reads (pattern : List α → Option Nat) : Prop where
  bounded : ∀ text length, pattern text = some length → 0 < length ∧ length ≤ text.length
  extends_ : ∀ text more, (pattern text).isSome = true → (pattern (text ++ more)).isSome = true

/-- A pattern matches nowhere in a text. -/
def Absent (pattern : List α → Option Nat) (text : List α) : Prop :=
  ∀ rest, rest <:+ text → pattern rest = none

/-! ## Runs -/

/-- A run ends before a character that is not of the class. -/
theorem takeWhile_stop (inClass : α → Bool) (stop : α) (apart : inClass stop = false)
    (text more : List α) :
    (text ++ stop :: more).takeWhile inClass = text.takeWhile inClass := by
  induction text with
  | nil => simp [apart]
  | cons character rest inductionHypothesis =>
    rw [List.cons_append, List.takeWhile_cons, List.takeWhile_cons, inductionHypothesis]

/-- A run is what a text starts with, up to what is not of the class. -/
theorem takeWhile_run (inClass : α → Bool) (run rest : List α)
    (within : ∀ character ∈ run, inClass character = true)
    (ends : ∀ character ∈ rest.head?, inClass character = false) :
    (run ++ rest).takeWhile inClass = run ∧ (run ++ rest).dropWhile inClass = rest := by
  rw [List.takeWhile_append_of_pos within, List.dropWhile_append_of_pos within]
  cases rest with
  | nil => simp
  | cons next rest => simp [ends next rfl]

/-- What follows a run does not start with a character of the class. -/
theorem dropWhile_head (inClass : α → Bool) (text : List α) :
    ∀ character ∈ (text.dropWhile inClass).head?, inClass character = false := by
  intro character first
  have ends := List.head?_dropWhile_not inClass text
  rw [first] at ends
  simpa using ends

/-- Behind the length of a run is what follows it. -/
theorem drop_takeWhile (inClass : α → Bool) (text : List α) :
    text.drop (text.takeWhile inClass).length = text.dropWhile inClass := by
  have whole := List.takeWhile_append_dropWhile (p := inClass) (l := text)
  exact (congrArg (List.drop _) whole).symm.trans List.drop_left

/-! ## Parts -/

section Parts

variable {pattern : List α → Option Nat}

/-- A text always leaves a part. -/
theorem cut_ne_nil (skipped place : Nat) (text : List α) : cut pattern skipped place text ≠ [] := by
  induction text generalizing skipped place with
  | nil => simp [cut]
  | cons character rest inductionHypothesis =>
    cases skipped with
    | succ skipped => exact inductionHypothesis skipped (place + 1)
    | zero =>
      rw [cut]
      split
      · simp
      · cases left : cut pattern 0 (place + 1) rest with
        | nil => exact absurd left (inductionHypothesis 0 (place + 1))
        | cons first later => simp [grown]

/-- A text whose first character is not matched leaves it at the start of its first part. -/
theorem cut_grown (place : Nat) (character : α) (rest : List α)
    (unmatched : pattern (character :: rest) = none) : ∃ first later,
      cut pattern 0 (place + 1) rest = first :: later ∧
      cut pattern 0 place (character :: rest) = ⟨place, character :: first.text⟩ :: later := by
  cases left : cut pattern 0 (place + 1) rest with
  | nil => exact absurd left (cut_ne_nil 0 (place + 1) rest)
  | cons first later =>
    refine ⟨first, later, rfl, ?_⟩
    rw [cut, unmatched]
    simp only [left, grown]

/-- The first part of a text is what it starts with, at its place. -/
theorem cut_head (place : Nat) (text : List α) (first : Part α) (later : List (Part α))
    (left : cut pattern 0 place text = first :: later) :
    first.start = place ∧ first.text <+: text := by
  induction text generalizing place first later with
  | nil =>
    cases left
    exact ⟨rfl, List.nil_prefix⟩
  | cons character rest inductionHypothesis =>
    cases matched : pattern (character :: rest) with
    | some length =>
      rw [cut, matched] at left
      cases left
      exact ⟨rfl, List.nil_prefix⟩
    | none =>
      obtain ⟨front, after, left_rest, same⟩ := cut_grown place character rest matched
      rw [left] at same
      cases same
      obtain ⟨-, within⟩ := inductionHypothesis (place + 1) front later left_rest
      exact ⟨rfl, (List.cons_prefix_cons).mpr ⟨rfl, within⟩⟩

/-- Every part is in the text at the place it starts at. -/
theorem cut_within (skipped place : Nat) (text : List α) (part : Part α)
    (left : part ∈ cut pattern skipped place text) :
    place ≤ part.start ∧ part.text <+: text.drop (part.start - place) := by
  induction text generalizing skipped place part with
  | nil =>
    rw [cut] at left
    cases List.mem_singleton.mp left
    simp
  | cons character rest inductionHypothesis =>
    have shifted (skipped : Nat) (part : Part α)
        (left : part ∈ cut pattern skipped (place + 1) rest) :
        place ≤ part.start ∧ part.text <+: (character :: rest).drop (part.start - place) := by
      obtain ⟨after, within⟩ := inductionHypothesis skipped (place + 1) part left
      obtain ⟨distance, here⟩ : ∃ distance, part.start - place = distance + 1 :=
        ⟨part.start - (place + 1), by omega⟩
      refine ⟨by omega, ?_⟩
      rw [here, List.drop_succ_cons]
      rwa [show part.start - (place + 1) = distance by omega] at within
    cases skipped with
    | succ skipped => exact shifted skipped part left
    | zero =>
      cases matched : pattern (character :: rest) with
      | some length =>
        rw [cut, matched] at left
        rcases List.mem_cons.mp left with rfl | later
        · exact ⟨Nat.le_refl _, List.nil_prefix⟩
        · exact shifted _ part later
      | none =>
        obtain ⟨front, after, left_rest, same⟩ := cut_grown place character rest matched
        rw [same] at left
        rcases List.mem_cons.mp left with rfl | later
        · obtain ⟨-, within⟩ := cut_head (place + 1) rest front after left_rest
          refine ⟨Nat.le_refl _, ?_⟩
          rw [Nat.sub_self, List.drop_zero]
          exact List.cons_prefix_cons.mpr ⟨rfl, within⟩
        · exact shifted 0 part (left_rest ▸ List.mem_cons_of_mem _ later)

/-- A pattern matches nothing in an empty text. -/
theorem Reads.nil (reads : Reads pattern) : pattern [] = none := by
  cases matched : pattern [] with
  | none => rfl
  | some length =>
    have bounds := reads.bounded [] length matched
    rw [List.length_nil] at bounds
    omega

/-- A text in which a pattern matches nowhere is left as it is. -/
theorem Absent.cut {text : List α} (absent : Absent pattern text) (place : Nat) :
    cut pattern 0 place text = [⟨place, text⟩] := by
  induction text generalizing place with
  | nil => rfl
  | cons character rest inductionHypothesis =>
    have later : Absent pattern rest := fun ending within =>
      absent ending (within.trans (List.suffix_cons _ _))
    rw [Text.cut, absent (character :: rest) List.suffix_rfl]
    simp only [inductionHypothesis later, grown]

/-- A pattern that matches nowhere in a text matches nowhere in a part of it. -/
theorem Absent.of_part (reads : Reads pattern) {text part : List α} (absent : Absent pattern text)
    (within : part <:+: text) : Absent pattern part := by
  obtain ⟨before, after, same⟩ := within
  intro rest ending
  cases matched : pattern rest with
  | none => rfl
  | some length =>
    have longer := reads.extends_ rest after (by rw [matched]; rfl)
    obtain ⟨front, split⟩ := ending
    have here := absent (rest ++ after) ⟨before ++ front, by rw [← same, ← split]; simp⟩
    rw [here] at longer
    cases longer

/-- A pattern matches nowhere in the parts that its matches leave. -/
theorem cut_absent (reads : Reads pattern) (skipped place : Nat) (text : List α) (part : Part α)
    (left : part ∈ cut pattern skipped place text) : Absent pattern part.text := by
  have empty : Absent pattern [] := by
    intro rest ending
    rw [List.suffix_nil.mp ending]
    exact reads.nil
  induction text generalizing skipped place part with
  | nil =>
    rw [cut] at left
    cases List.mem_singleton.mp left
    exact empty
  | cons character rest inductionHypothesis =>
    cases skipped with
    | succ skipped => exact inductionHypothesis skipped (place + 1) part left
    | zero =>
      cases matched : pattern (character :: rest) with
      | some length =>
        rw [cut, matched] at left
        rcases List.mem_cons.mp left with rfl | later
        · exact empty
        · exact inductionHypothesis _ _ part later
      | none =>
        obtain ⟨front, after, left_rest, same⟩ := cut_grown place character rest matched
        rw [same] at left
        rcases List.mem_cons.mp left with rfl | later
        · obtain ⟨-, more, within⟩ := cut_head (place + 1) rest front after left_rest
          intro ending suffix
          rcases List.suffix_cons_iff.mp suffix with rfl | inner
          · cases here : pattern (character :: front.text) with
            | none => rfl
            | some length =>
              have longer := reads.extends_ _ more (by rw [here]; rfl)
              rw [List.cons_append, within, matched] at longer
              cases longer
          · exact inductionHypothesis 0 (place + 1) front
              (left_rest ▸ List.mem_cons_self) ending inner
        · exact inductionHypothesis 0 (place + 1) part (left_rest ▸ List.mem_cons_of_mem _ later)

end Parts

/-! ## Several patterns -/

section Patterns

/-- A part of a part is in the text that the part is in. -/
theorem part_trans (text : List α) (outer inner : Part α)
    (outer_within : outer.text <+: text.drop outer.start) (after : outer.start ≤ inner.start)
    (inner_within : inner.text <+: outer.text.drop (inner.start - outer.start)) :
    inner.text <+: text.drop inner.start := by
  have dropped := List.IsPrefix.drop outer_within (inner.start - outer.start)
  rw [List.drop_drop, show outer.start + (inner.start - outer.start) = inner.start by omega]
    at dropped
  exact inner_within.trans dropped

/-- Some parts always leave a part. -/
theorem cutAll_ne_nil (patterns : List (List α → Option Nat)) (parts : List (Part α))
    (some : parts ≠ []) : cutAll patterns parts ≠ [] := by
  induction patterns generalizing parts with
  | nil => exact some
  | cons pattern rest inductionHypothesis =>
    refine inductionHypothesis _ ?_
    obtain ⟨first, later, rfl⟩ := List.exists_cons_of_ne_nil some
    simp [cut_ne_nil]

/-- Every part that patterns leave of the parts of a text is in the text at its place. -/
theorem cutAll_within (patterns : List (List α → Option Nat)) (parts : List (Part α))
    (text : List α) (within : ∀ part ∈ parts, part.text <+: text.drop part.start) :
    ∀ part ∈ cutAll patterns parts, part.text <+: text.drop part.start := by
  induction patterns generalizing parts with
  | nil => exact within
  | cons pattern rest inductionHypothesis =>
    refine inductionHypothesis _ (fun part left => ?_)
    obtain ⟨outer, inParts, inCut⟩ := List.mem_flatMap.mp left
    obtain ⟨after, inner⟩ := cut_within 0 outer.start outer.text part inCut
    exact part_trans text outer part (within outer inParts) after inner

/-- Every part that patterns leave is within a part they were given. -/
theorem cutAll_infix (patterns : List (List α → Option Nat)) (parts : List (Part α)) :
    ∀ part ∈ cutAll patterns parts, ∃ outer ∈ parts, part.text <:+: outer.text := by
  induction patterns generalizing parts with
  | nil => exact fun part left => ⟨part, left, List.infix_rfl⟩
  | cons pattern rest inductionHypothesis =>
    intro part left
    obtain ⟨middle, inMiddle, inner⟩ := inductionHypothesis _ part left
    obtain ⟨outer, inParts, inCut⟩ := List.mem_flatMap.mp inMiddle
    obtain ⟨-, within⟩ := cut_within 0 outer.start outer.text middle inCut
    exact ⟨outer, inParts, inner.trans (within.isInfix.trans (List.drop_suffix _ _).isInfix)⟩

/-- None of the patterns matches anywhere in the parts that they leave. -/
theorem cutAll_absent (patterns : List (List α → Option Nat))
    (reads : ∀ pattern ∈ patterns, Reads pattern) (parts : List (Part α)) :
    ∀ part ∈ cutAll patterns parts, ∀ pattern ∈ patterns, Absent pattern part.text := by
  induction patterns generalizing parts with
  | nil => exact fun _ _ _ none => absurd none List.not_mem_nil
  | cons first rest inductionHypothesis =>
    obtain ⟨reads_first, reads_rest⟩ := List.forall_mem_cons.mp reads
    intro part left
    rw [List.forall_mem_cons]
    refine ⟨?_, inductionHypothesis reads_rest _ part left⟩
    obtain ⟨outer, inOuter, within⟩ := cutAll_infix rest _ part left
    obtain ⟨_, -, inCut⟩ := List.mem_flatMap.mp inOuter
    exact (cut_absent reads_first _ _ _ outer inCut).of_part reads_first within

/-- Parts in which none of the patterns matches are left as they are. -/
theorem cutAll_of_absent (patterns : List (List α → Option Nat)) (parts : List (Part α))
    (absent : ∀ part ∈ parts, ∀ pattern ∈ patterns, Absent pattern part.text) :
    cutAll patterns parts = parts := by
  induction patterns with
  | nil => rfl
  | cons first rest inductionHypothesis =>
    have kept : parts.flatMap (fun part => cut first 0 part.start part.text) = parts := by
      conv_rhs => rw [← List.flatMap_singleton' parts]
      apply List.flatMap_congr
      intro part listed
      exact (absent part listed first List.mem_cons_self).cut part.start
    rw [cutAll, List.foldl_cons, kept]
    exact inductionHypothesis (fun part listed pattern member =>
      absent part listed pattern (List.mem_cons_of_mem _ member))

end Patterns

end Text
