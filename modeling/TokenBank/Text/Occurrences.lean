import TokenBank.Text.Cutting
import TokenBank.Text.Patterns

/-!
# Where a pattern occurs

A pattern occurs in a text if it matches at one of its places. A character that no element of
the pattern takes, and that is no part of a word, is as good as the end of the text before it
and as the start of the text after it.
-/

namespace Text

/-- An element takes no such character. -/
def Element.Rejects (stop : Char) : Element → Prop
  | .one inClass => inClass stop = false
  | .optional inClass => inClass stop = false
  | .many _ inClass => inClass stop = false
  | .boundary => True

instance (stop : Char) (element : Element) : Decidable (element.Rejects stop) := by
  cases element <;> unfold Element.Rejects <;> infer_instance

section Occurring

variable (word : Char → Bool) (pattern : List Element)

/-- A pattern matches at one of the places of a text that follows a character. -/
def occurs (previous : Option Char) : List Char → Bool
  | [] => false
  | character :: later =>
    (matchLength word pattern previous (character :: later)).isSome ||
      occurs (some character) later

/-- A pattern is counted exactly if it occurs. -/
theorem occurrences_pos_iff (previous : Option Char) (text : List Char) :
    0 < occurrences word pattern 0 previous text ↔ occurs word pattern previous text = true := by
  induction text generalizing previous with
  | nil => simp [occurrences, occurs]
  | cons character later inductionHypothesis =>
    rw [occurrences, occurs]
    cases matched : matchLength word pattern previous (character :: later) with
    | some length => simp only [Option.isSome_some, Bool.true_or, iff_true]; omega
    | none => simpa using inductionHypothesis (some character)

end Occurring

/-- Two searches that find the same at every item find the same. -/
theorem findSome?_congr {α β : Type} {items : List α} {find other : α → Option β}
    (same : ∀ item ∈ items, find item = other item) : items.findSome? find = items.findSome? other := by
  induction items with
  | nil => rfl
  | cons item rest inductionHypothesis =>
    obtain ⟨here, later⟩ := List.forall_mem_cons.mp same
    rw [List.findSome?_cons, List.findSome?_cons, here, inductionHypothesis later]

section Stopping

variable {word : Char → Bool} {pattern : List Element}

/-- One character of a class matches exactly if a text starts with one and the rest matches. -/
theorem matchLength_one (inClass : Char → Bool) (rest : List Element) (previous : Option Char)
    (text : List Char) : (matchLength word (.one inClass :: rest) previous text).isSome = true ↔
      ∃ character later, text = character :: later ∧ inClass character = true ∧
        (matchLength word rest (some character) later).isSome = true := by
  cases text with
  | nil => simp [matchLength]
  | cons character later => cases member : inClass character <;> simp [matchLength, member]

/-- What a boundary is in front of matches by itself. -/
theorem matchLength_boundary (rest : List Element) (previous : Option Char) (text : List Char)
    (matched : (matchLength word (.boundary :: rest) previous text).isSome = true) :
    (matchLength word rest previous text).isSome = true := by
  rw [matchLength] at matched
  split at matched
  · exact matched
  · cases matched

/-- A run matches only where a text starts with enough characters of the class. -/
theorem matchLength_many (least : Nat) (inClass : Char → Bool) (rest : List Element)
    (previous : Option Char) (text : List Char)
    (matched : (matchLength word (.many least inClass :: rest) previous text).isSome = true) :
    least ≤ (text.takeWhile inClass).length := by
  by_contra short
  rw [matchLength, show (text.takeWhile inClass).length + 1 - least = 0 by omega] at matched
  cases matched

/-- What a pattern matches depends on the character before only by whether it is part of a word. -/
theorem matchLength_previous (previous other : Option Char) (same : previous.any word = other.any word)
    (text : List Char) :
    matchLength word pattern previous text = matchLength word pattern other text := by
  induction pattern generalizing previous other text with
  | nil => rfl
  | cons element rest inductionHypothesis =>
    cases element with
    | one inClass => cases text <;> rfl
    | optional inClass =>
      cases text with
      | nil => exact inductionHypothesis previous other same []
      | cons character later =>
        rw [matchLength, matchLength, inductionHypothesis previous other same]
    | many least inClass =>
      rw [matchLength, matchLength]
      refine congrArg (fun find => List.findSome? find _) (funext fun length => ?_)
      rw [inductionHypothesis ((text.take length).getLast?.or previous)
        ((text.take length).getLast?.or other)]
      cases (text.take length).getLast? with
      | none => exact same
      | some character => rfl
    | boundary =>
      rw [matchLength, matchLength, atBoundary, atBoundary, same,
        inductionHypothesis previous other same]

/-- Where a pattern occurs depends on the character before only by whether it is part of a word. -/
theorem occurs_previous (previous other : Option Char) (same : previous.any word = other.any word)
    (text : List Char) : occurs word pattern previous text = occurs word pattern other text := by
  cases text with
  | nil => rfl
  | cons character later => rw [occurs, occurs, matchLength_previous previous other same]

/-- A pattern matches before a character that it does not take as at the end of a text. -/
theorem matchLength_stop (stop : Char) (apart : word stop = false)
    (rejects : ∀ element ∈ pattern, element.Rejects stop) (previous : Option Char)
    (text more : List Char) :
    matchLength word pattern previous (text ++ stop :: more) =
      matchLength word pattern previous text := by
  induction pattern generalizing previous text with
  | nil => rfl
  | cons element rest inductionHypothesis =>
    obtain ⟨rejects_here, rejects_later⟩ := List.forall_mem_cons.mp rejects
    have later := inductionHypothesis rejects_later
    cases element with
    | one inClass =>
      have refused : inClass stop = false := rejects_here
      cases text with
      | nil => simp [matchLength, refused]
      | cons character after => simp [matchLength, later]
    | optional inClass =>
      have refused : inClass stop = false := rejects_here
      cases text with
      | nil =>
        have ended := later previous []
        rw [List.nil_append] at ended
        simp [matchLength, refused, ended]
      | cons character after =>
        have shifted := later previous (character :: after)
        rw [List.cons_append] at shifted
        simp [matchLength, later, shifted]
    | many least inClass =>
      have refused : inClass stop = false := rejects_here
      have run := takeWhile_stop inClass stop refused text more
      have counted := (List.takeWhile_prefix inClass (l := text)).length_le
      rw [matchLength, matchLength, run]
      apply findSome?_congr
      intro length tried
      rw [List.mem_reverse, List.mem_range'_1] at tried
      have inside : length ≤ text.length := by omega
      rw [List.take_append_of_le_length inside, List.drop_append_of_le_length inside, later]
    | boundary =>
      have head : (text ++ stop :: more).head?.any word = text.head?.any word := by
        cases text with
        | nil => simp [apart]
        | cons character after => rfl
      rw [matchLength, matchLength, atBoundary, atBoundary, head, later]

/-- A pattern occurs before or behind a character that it does not take. -/
theorem occurs_stop (stop : Char) (apart : word stop = false)
    (rejects : ∀ element ∈ pattern, element.Rejects stop) (previous : Option Char)
    (text more : List Char) :
    occurs word pattern previous (text ++ stop :: more) =
      (occurs word pattern previous text ||
        occurs word pattern (text.getLast?.or previous) (stop :: more)) := by
  induction text generalizing previous with
  | nil => rfl
  | cons character later inductionHypothesis =>
    have here := matchLength_stop stop apart rejects previous (character :: later) more
    have last : (character :: later).getLast?.or previous =
        later.getLast?.or (some character) := by
      cases later with
      | nil => rfl
      | cons next rest =>
        rw [List.getLast?_cons_cons, List.getLast?_cons]
        rfl
    rw [List.cons_append] at here ⊢
    rw [occurs, occurs, here, inductionHypothesis, Bool.or_assoc, last]

end Stopping

end Text
