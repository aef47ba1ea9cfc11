import Mathlib.Data.List.Basic

/-!
# Patterns over text

A pattern is a sequence of elements: one character of a class, an optional one, a run
of at least some length, or a boundary between a word and what is not a word. Runs and
optional characters take as much as they can and give back what the rest needs, so a
match is the first one in that order of preference. Occurrences are counted from left
to right, and none overlaps the one before it.
-/

namespace Text

/-- One element of a pattern. -/
inductive Element : Type
  | one (inClass : Char → Bool)
  | optional (inClass : Char → Bool)
  | many (least : Nat) (inClass : Char → Bool)
  | boundary

/-- The elements that match a text and nothing else. -/
def literal (text : String) : List Element :=
  text.toList.map (fun character => .one (fun other => other = character))

section Matching

variable (word : Char → Bool)

/-- A word begins or ends between two characters, either of which may be missing. -/
def atBoundary (previous next : Option Char) : Bool := previous.any word != next.any word

/-- The length of the match of a pattern at the start of a text that follows a
character. -/
def matchLength : List Element → Option Char → List Char → Option Nat
  | [], _, _ => some 0
  | .one inClass :: rest, _, text =>
    match text with
    | [] => none
    | character :: later =>
      if inClass character then (matchLength rest (some character) later).map (· + 1) else none
  | .optional inClass :: rest, previous, text =>
    match text with
    | [] => matchLength rest previous []
    | character :: later =>
      if inClass character then
        ((matchLength rest (some character) later).map (· + 1)).or
          (matchLength rest previous (character :: later))
      else matchLength rest previous (character :: later)
  | .many least inClass :: rest, previous, text =>
    let longest := (text.takeWhile inClass).length
    (List.range' least (longest + 1 - least)).reverse.findSome? (fun length =>
      (matchLength rest ((text.take length).getLast?.or previous) (text.drop length)).map
        (· + length))
  | .boundary :: rest, previous, text =>
    if atBoundary word previous text.head? then matchLength rest previous text else none

/-- The length of what a group matches at the start of a text that follows a character, and of the
group together with what matches behind it. -/
def captureLength (after : List Char → Option Nat) :
    List Element → Option Char → List Char → Option (Nat × Nat)
  | [], _, text => (after text).map (fun length => (0, length))
  | .one inClass :: rest, _, text =>
    match text with
    | [] => none
    | character :: later =>
      if inClass character then
        (captureLength after rest (some character) later).map (fun found => (found.1 + 1, found.2 + 1))
      else none
  | .optional inClass :: rest, previous, text =>
    match text with
    | [] => captureLength after rest previous []
    | character :: later =>
      if inClass character then
        ((captureLength after rest (some character) later).map
            (fun found => (found.1 + 1, found.2 + 1))).or
          (captureLength after rest previous (character :: later))
      else captureLength after rest previous (character :: later)
  | .many least inClass :: rest, previous, text =>
    let longest := (text.takeWhile inClass).length
    (List.range' least (longest + 1 - least)).reverse.findSome? (fun length =>
      (captureLength after rest ((text.take length).getLast?.or previous) (text.drop length)).map
        (fun found => (found.1 + length, found.2 + length)))
  | .boundary :: rest, previous, text =>
    if atBoundary word previous text.head? then captureLength after rest previous text else none

/-- What matches behind a group is behind it and in the text. -/
theorem captureLength_bounded {after : List Char → Option Nat}
    (bounded : ∀ text length, after text = some length → 0 < length ∧ length ≤ text.length)
    (group : List Element) (previous : Option Char) (text : List Char) (kept length : Nat)
    (matched : captureLength word after group previous text = some (kept, length)) :
    kept < length ∧ length ≤ text.length := by
  induction group generalizing previous text kept length with
  | nil =>
    obtain ⟨found, here, same⟩ := Option.map_eq_some_iff.mp matched
    obtain ⟨rfl, rfl⟩ := Prod.mk.inj same
    exact bounded text found here
  | cons element rest inductionHypothesis =>
    have step (previous : Option Char) (taken : Nat) (enough : taken ≤ text.length)
        (found : (captureLength word after rest previous (text.drop taken)).map
          (fun found => (found.1 + taken, found.2 + taken)) = some (kept, length)) :
        kept < length ∧ length ≤ text.length := by
      obtain ⟨inner, here, same⟩ := Option.map_eq_some_iff.mp found
      obtain ⟨rfl, rfl⟩ := Prod.mk.inj same
      have within := inductionHypothesis _ _ _ _ here
      rw [List.length_drop] at within
      omega
    cases element with
    | one inClass =>
      cases text with
      | nil => cases matched
      | cons character later =>
        rw [captureLength] at matched
        split at matched
        · exact step _ 1 (by simp) matched
        · cases matched
    | optional inClass =>
      cases text with
      | nil => exact inductionHypothesis _ _ _ _ matched
      | cons character later =>
        rw [captureLength] at matched
        split at matched
        · rcases Option.or_eq_some_iff.mp matched with taken | ⟨-, left⟩
          · exact step _ 1 (by simp) taken
          · exact inductionHypothesis _ _ _ _ left
        · exact inductionHypothesis _ _ _ _ matched
    | many least inClass =>
      obtain ⟨taken, listed, found⟩ := List.exists_of_findSome?_eq_some matched
      rw [List.mem_reverse, List.mem_range'_1] at listed
      have run := (List.takeWhile_prefix inClass (l := text)).length_le
      exact step _ taken (by omega) found
    | boundary =>
      rw [captureLength] at matched
      split at matched
      · exact inductionHypothesis _ _ _ _ matched
      · cases matched

/-- How often a pattern occurs in a text that follows a character, after the characters
that remain of an occurrence. -/
def occurrences (pattern : List Element) : Nat → Option Char → List Char → Nat
  | _, _, [] => 0
  | skipped + 1, _, character :: later => occurrences pattern skipped (some character) later
  | 0, previous, character :: later =>
    match matchLength word pattern previous (character :: later) with
    | some length => 1 + occurrences pattern (length - 1) (some character) later
    | none => occurrences pattern 0 (some character) later

/-- How often a pattern occurs in a text. -/
def count (pattern : List Element) (text : String) : Nat :=
  occurrences word pattern 0 none text.toList

end Matching

/-- A run gives back what a boundary needs, and an occurrence is not counted twice. -/
example : count Char.isAlphanum (literal "k-" ++ [.many 1 (fun c => c.isAlphanum || c = '-'),
    .boundary]) "k-a-- k-k-b" = 2 := by decide

end Text
