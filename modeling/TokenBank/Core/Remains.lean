import TokenBank.Core.Redaction
import TokenBank.Text.Cutting

/-!
# What redaction leaves of a text

The patterns of redaction match nothing of the marker that takes the place of a match, and no
match runs into a marker. So every pattern looks at the parts between markers one by one: the
redacted text is what the patterns leave of the text, with a marker between two parts.
-/

namespace TokenBank

namespace Redaction

open Text

/-! ## Runs and fragments -/

/-- A text occurs in another exactly if it is a part of it. -/
theorem occursIn_iff (fragment text : List Char) :
    occursIn fragment text = true ↔ fragment <:+: text := by
  induction text with
  | nil => simp [occursIn]
  | cons character rest inductionHypothesis =>
    rw [occursIn, Bool.or_eq_true, List.isPrefixOf_iff_prefix, inductionHypothesis,
      List.infix_cons_iff]

/-- What a run matches is not empty. -/
theorem runAfter_eq_some_iff (matched length : Nat) (inClass : Char → Bool) (text : List Char) :
    runAfter matched inClass text = some length ↔
      text.takeWhile inClass ≠ [] ∧ length = matched + (text.takeWhile inClass).length := by
  rw [runAfter, Option.ite_none_left_eq_some, Option.some.injEq, List.length_eq_zero_iff,
    eq_comm (a := length)]

/-- A run matches exactly if a text starts with a character of the class. -/
theorem runAfter_isSome_iff (matched : Nat) (inClass : Char → Bool) (text : List Char) :
    (runAfter matched inClass text).isSome = true ↔
      ∃ character rest, text = character :: rest ∧ inClass character = true := by
  unfold runAfter
  cases text with
  | nil => simp
  | cons character rest => cases member : inClass character <;> simp [member]

/-- A run after a text matches alike whatever follows a character that is not of the class. -/
theorem runAfter_stop (matched : Nat) (inClass : Char → Bool) (stop : Char)
    (apart : inClass stop = false) (text more : List Char) :
    runAfter matched inClass (text ++ stop :: more) = runAfter matched inClass text := by
  rw [runAfter, runAfter, takeWhile_stop inClass stop apart]

/-! ## Literals -/

/-- A match of a literal and a run is the literal, and a run that the text goes on with. -/
theorem literalThen_eq_some_iff (opening : String) (inClass : Char → Bool) (text : List Char)
    (length : Nat) : literalThen opening inClass text = some length ↔
      ∃ run rest, text = opening.toList ++ (run ++ rest) ∧
        (run ≠ [] ∧ ∀ character ∈ run, inClass character = true) ∧
        (∀ character ∈ rest.head?, inClass character = false) ∧
        length = opening.toList.length + run.length := by
  constructor
  · intro matched
    unfold literalThen at matched
    split at matched
    · rename_i starts
      obtain ⟨after, rfl⟩ := List.isPrefixOf_iff_prefix.mp starts
      rw [← String.length_toList, List.drop_left, runAfter_eq_some_iff] at matched
      obtain ⟨some, rfl⟩ := matched
      refine ⟨after.takeWhile inClass, after.dropWhile inClass, ?_,
        ⟨some, fun _ => List.mem_takeWhile_imp⟩, dropWhile_head _ _, rfl⟩
      rw [List.takeWhile_append_dropWhile]
    · cases matched
  · rintro ⟨run, rest, rfl, ⟨some, within⟩, ends, rfl⟩
    rw [literalThen, if_pos (List.isPrefixOf_iff_prefix.mpr (List.prefix_append _ _)),
      ← String.length_toList, List.drop_left, runAfter_eq_some_iff,
      (takeWhile_run inClass run rest within ends).1]
    exact ⟨some, rfl⟩

/-- A literal and a run match exactly if the literal is followed by a character of the class. -/
theorem literalThen_isSome_iff (opening : String) (inClass : Char → Bool) (text : List Char) :
    (literalThen opening inClass text).isSome = true ↔
      ∃ character rest, text = opening.toList ++ character :: rest ∧ inClass character = true := by
  unfold literalThen
  split
  · rename_i starts
    obtain ⟨after, rfl⟩ := List.isPrefixOf_iff_prefix.mp starts
    rw [show opening.length = opening.toList.length from rfl, List.drop_left, runAfter_isSome_iff]
    simp
  · rename_i other
    simp only [Option.isSome_none, Bool.false_eq_true, false_iff, not_exists, not_and]
    rintro character rest rfl
    exact absurd (List.isPrefixOf_iff_prefix.mpr (List.prefix_append _ _)) other

/-- A text that starts another one, which goes on with a character it does not have, starts what
is before that character. -/
theorem prefix_stop (opening text more : List Char) (stop : Char) (apart : stop ∉ opening)
    (starts : opening <+: text ++ stop :: more) : opening <+: text := by
  have stopped : text ++ [stop] <+: text ++ stop :: more := by
    rw [List.append_cons text stop more]
    exact List.prefix_append _ _
  rcases List.prefix_or_prefix_of_prefix starts stopped with within | longer
  · rcases List.prefix_concat_iff.mp within with whole | within
    · exact absurd (whole ▸ by simp) apart
    · exact within
  · exact absurd (longer.subset (by simp)) apart

/-- A literal and a run match before a character that neither has as at the end of a text. -/
theorem literalThen_stop (opening : String) (inClass : Char → Bool) (stop : Char)
    (open_ : stop ∉ opening.toList) (apart : inClass stop = false) (text more : List Char) :
    literalThen opening inClass (text ++ stop :: more) = literalThen opening inClass text := by
  unfold literalThen
  by_cases within : opening.toList <+: text
  · obtain ⟨after, rfl⟩ := within
    rw [if_pos (List.isPrefixOf_iff_prefix.mpr (List.prefix_append _ _)),
      if_pos (List.isPrefixOf_iff_prefix.mpr (by simp)), ← String.length_toList, List.append_assoc,
      List.drop_left, List.drop_left, runAfter_stop _ _ _ apart]
  · rw [if_neg (fun here => within (List.isPrefixOf_iff_prefix.mp here)), if_neg (fun here =>
      within (prefix_stop _ text more stop open_ (List.isPrefixOf_iff_prefix.mp here)))]

/-- A literal and a run match nothing that starts with another character. -/
theorem literalThen_unopened (opening : String) (inClass : Char → Bool) (first : Char)
    (others : List Char) (starts : opening.toList = first :: others) (character : Char)
    (more : List Char) (other : first ≠ character) :
    literalThen opening inClass (character :: more) = none := by
  simp [literalThen, starts, other]

/-- A literal and a run read characters if the literal has one. -/
theorem literalThen_reads (opening : String) (inClass : Char → Bool) (filled : opening.toList ≠ []) :
    Reads (literalThen opening inClass) where
  bounded := by
    intro text length matched
    unfold literalThen at matched
    split at matched
    · rename_i within
      obtain ⟨-, rfl⟩ := (runAfter_eq_some_iff _ _ _ _).mp matched
      obtain ⟨after, rfl⟩ := List.isPrefixOf_iff_prefix.mp within
      have counted := (List.takeWhile_prefix inClass (l := after)).length_le
      have positive := List.length_pos_iff.mpr filled
      rw [← String.length_toList, List.drop_left, List.length_append]
      omega
    · cases matched
  extends_ := by
    intro text more matched
    rw [literalThen_isSome_iff] at matched ⊢
    obtain ⟨character, rest, rfl, member⟩ := matched
    exact ⟨character, rest ++ more, by simp, member⟩

/-! ## Bearer credentials -/

/-- A text that is another one in lower case, which has no letter i, is as long. -/
theorem lowered_length (text lowered : List Char) (apart : 'i' ∉ lowered)
    (same : text.flatMap lowerCharacter = lowered) : text.length = lowered.length := by
  induction text generalizing lowered with
  | nil =>
    subst same
    rfl
  | cons character rest inductionHypothesis =>
    rw [List.flatMap_cons] at same
    have single : (lowerCharacter character).length = 1 := by
      unfold lowerCharacter at same ⊢
      split_ifs at same ⊢ with upper kelvin dotted
      · rfl
      · rfl
      · subst same
        simp at apart
      · rfl
    subst same
    rw [List.mem_append, not_or] at apart
    rw [List.length_cons, List.length_append, single,
      inductionHypothesis _ apart.2 rfl, Nat.add_comm]

/-- A word and blanks and a run match up to the end of the run. -/
theorem bearerThen_eq_some_iff (inClass : Char → Bool) (text : List Char) (length : Nat) :
    bearerThen inClass text = some length ↔
      (text.take 6).flatMap lowerCharacter = "bearer".toList ∧
      (text.drop 6).takeWhile blank ≠ [] ∧
      ((text.drop 6).dropWhile blank).takeWhile inClass ≠ [] ∧
      length = 6 + ((text.drop 6).takeWhile blank).length +
        (((text.drop 6).dropWhile blank).takeWhile inClass).length := by
  have after : (text.drop 6).dropWhile blank =
      text.drop (6 + ((text.drop 6).takeWhile blank).length) := by
    rw [← List.drop_drop, drop_takeWhile]
  simp only [bearerThen]
  split
  · rename_i spelled
    cases run : runAfter 6 blank (text.drop 6) with
    | none =>
      have nothing : ¬ (text.drop 6).takeWhile blank ≠ [] := fun some => by
        rw [(runAfter_eq_some_iff 6 _ blank _).mpr ⟨some, rfl⟩] at run
        cases run
      simp only [reduceCtorEq, false_iff]
      exact fun here => nothing here.2.1
    | some matched =>
      obtain ⟨some, rfl⟩ := (runAfter_eq_some_iff _ _ _ _).mp run
      rw [runAfter_eq_some_iff, ← after]
      exact ⟨fun here => ⟨spelled, some, here⟩, fun here => here.2.2⟩
  · rename_i other
    simp only [reduceCtorEq, false_iff]
    exact fun here => other here.1

/-- A word and blanks and a run match exactly if a text starts with the word bearer in any case,
blanks, and a character of the class. -/
theorem bearerThen_isSome_iff (inClass : Char → Bool)
    (visible : ∀ character, inClass character = true → blank character = false)
    (text : List Char) :
    (bearerThen inClass text).isSome = true ↔ ∃ word blanks character rest,
      text = word ++ (blanks ++ character :: rest) ∧
      word.flatMap lowerCharacter = "bearer".toList ∧ blanks ≠ [] ∧
      (∀ other ∈ blanks, blank other = true) ∧ inClass character = true := by
  rw [Option.isSome_iff_exists]
  simp only [bearerThen_eq_some_iff]
  constructor
  · rintro ⟨_, spelled, some, run, -⟩
    obtain ⟨character, rest, after, member⟩ := (runAfter_isSome_iff 0 inClass _).mp
      (Option.isSome_iff_exists.mpr ⟨_, (runAfter_eq_some_iff 0 _ inClass _).mpr ⟨run, rfl⟩⟩)
    refine ⟨text.take 6, (text.drop 6).takeWhile blank, character, rest, ?_, spelled, some,
      fun other listed => List.mem_takeWhile_imp listed, member⟩
    rw [← after, List.takeWhile_append_dropWhile, List.take_append_drop]
  · rintro ⟨word, blanks, character, rest, rfl, spelled, some, each, member⟩
    have six : word.length = 6 := lowered_length word _ (by decide) spelled
    have hidden := visible character member
    have run : (blanks ++ character :: rest).takeWhile blank = blanks := by
      rw [takeWhile_stop blank character hidden, List.takeWhile_eq_self_iff.mpr each]
    have left : (blanks ++ character :: rest).dropWhile blank = character :: rest := by
      rw [List.dropWhile_append_of_pos each, List.dropWhile_cons_of_neg (by simp [hidden])]
    rw [List.take_left' six, List.drop_left' six, run, left]
    exact ⟨_, spelled, some, by simp [member], rfl⟩

/-- A character in lower case is at least one character. -/
theorem lowerCharacter_ne_nil (character : Char) : lowerCharacter character ≠ [] := by
  unfold lowerCharacter
  split_ifs <;> simp

/-- A word and blanks and a run match nothing that starts with another letter. -/
theorem bearerThen_unopened (inClass : Char → Bool) (character : Char) (more : List Char)
    (apart : (lowerCharacter character).head? ≠ some 'b') :
    bearerThen inClass (character :: more) = none := by
  cases matched : bearerThen inClass (character :: more) with
  | none => rfl
  | some length =>
    obtain ⟨spelled, -⟩ := (bearerThen_eq_some_iff _ _ _).mp matched
    rw [List.take_succ_cons, List.flatMap_cons] at spelled
    obtain ⟨first, rest, lowered⟩ := List.exists_cons_of_ne_nil (lowerCharacter_ne_nil character)
    have head := congrArg List.head? spelled
    rw [lowered] at head apart
    exact absurd head apart

/-- A word and blanks and a run read characters if the run has no blank. -/
theorem bearerThen_reads (inClass : Char → Bool)
    (visible : ∀ character, inClass character = true → blank character = false) :
    Reads (bearerThen inClass) where
  bounded := by
    intro text length matched
    obtain ⟨spelled, -, -, rfl⟩ := (bearerThen_eq_some_iff _ _ _).mp matched
    have six : (text.take 6).length = 6 := lowered_length _ _ (by decide) spelled
    have blanks := congrArg List.length
      (List.takeWhile_append_dropWhile (p := blank) (l := text.drop 6))
    have run := (List.takeWhile_prefix inClass (l := (text.drop 6).dropWhile blank)).length_le
    rw [List.length_take] at six
    rw [List.length_append, List.length_drop] at blanks
    omega
  extends_ := by
    intro text more matched
    rw [bearerThen_isSome_iff inClass visible] at matched ⊢
    obtain ⟨word, blanks, character, rest, rfl, here⟩ := matched
    exact ⟨word, blanks, character, rest ++ more, by simp, here⟩

/-- A word and blanks and a run match alike whatever follows a character that is in none of them. -/
theorem bearerThen_stop (inClass : Char → Bool) (stop : Char) (visible : blank stop = false)
    (apart : inClass stop = false) (other : ∀ letter ∈ lowerCharacter stop, letter ∉ "bearer".toList)
    (text more : List Char) :
    bearerThen inClass (text ++ stop :: more) = bearerThen inClass text := by
  by_cases enough : 6 ≤ text.length
  · have after : (text ++ stop :: more).drop 6 = text.drop 6 ++ stop :: more :=
      List.drop_append_of_le_length enough
    have blanks := takeWhile_stop blank stop visible (text.drop 6) more
    have left : (text.drop 6 ++ stop :: more).dropWhile blank =
        (text.drop 6).dropWhile blank ++ stop :: more := by
      have whole := List.takeWhile_append_dropWhile (p := blank) (l := text.drop 6 ++ stop :: more)
      rw [blanks] at whole
      conv_rhs at whole => rw [← List.takeWhile_append_dropWhile (p := blank) (l := text.drop 6),
        List.append_assoc]
      exact List.append_cancel_left whole
    apply Option.ext
    intro length
    rw [bearerThen_eq_some_iff, bearerThen_eq_some_iff, after, blanks, left,
      takeWhile_stop inClass stop apart, List.take_append_of_le_length enough]
  · have short (longer : List Char) (length : Nat) (matched : bearerThen inClass longer =
        some length) : (longer.take 6).length = 6 ∧ stop ∉ longer.take 6 := by
      obtain ⟨spelled, -⟩ := (bearerThen_eq_some_iff _ _ _).mp matched
      refine ⟨lowered_length _ _ (by decide) spelled, fun listed => ?_⟩
      obtain ⟨letter, letters, lowered⟩ := List.exists_cons_of_ne_nil (lowerCharacter_ne_nil stop)
      refine other letter (by rw [lowered]; exact List.mem_cons_self) ?_
      rw [← spelled]
      exact List.mem_flatMap.mpr ⟨stop, listed, by rw [lowered]; exact List.mem_cons_self⟩
    have unmatched : bearerThen inClass text = none := by
      cases matched : bearerThen inClass text with
      | none => rfl
      | some length =>
        have six := (short text length matched).1
        rw [List.length_take] at six
        omega
    rw [unmatched]
    cases matched : bearerThen inClass (text ++ stop :: more) with
    | none => rfl
    | some length =>
      refine absurd ?_ (short _ length matched).2
      rw [List.take_append]
      obtain ⟨left, here⟩ : ∃ left, 6 - text.length = left + 1 := ⟨5 - text.length, by omega⟩
      rw [here, List.take_succ_cons]
      simp

/-! ## Patterns and the marker -/

/-- A pattern of redaction reads characters, does not run into a marker, and matches nothing that
starts with a character of one. -/
structure Sealed (pattern : List Char → Option Nat) : Prop extends Reads pattern where
  stops : ∀ text more, pattern (text ++ '[' :: more) = pattern text
  unopened : ∀ character ∈ redactedSecret.toList, ∀ more, pattern (character :: more) = none

/-- A literal and a run are sealed if neither has a bracket and the literal does not start with a
character of the marker. -/
theorem literalThen_sealed (opening : String) (inClass : Char → Bool) (first : Char)
    (others : List Char) (starts : opening.toList = first :: others)
    (unmarked : first ∉ redactedSecret.toList) (open_ : '[' ∉ opening.toList)
    (apart : inClass '[' = false) : Sealed (literalThen opening inClass) where
  toReads := literalThen_reads opening inClass (by simp [starts])
  stops := literalThen_stop opening inClass '[' open_ apart
  unopened := fun character marked more => literalThen_unopened opening inClass first others
    starts character more (fun same => unmarked (same ▸ marked))

/-- A word and blanks and a run are sealed if the run has no bracket and no blank. -/
theorem bearerThen_sealed (inClass : Char → Bool)
    (visible : ∀ character, inClass character = true → blank character = false)
    (apart : inClass '[' = false) : Sealed (bearerThen inClass) where
  toReads := bearerThen_reads inClass visible
  stops := bearerThen_stop inClass '[' (by decide) apart (by decide)
  unopened := by
    intro character marked more
    have other : ∀ character ∈ redactedSecret.toList,
        (lowerCharacter character).head? ≠ some 'b' := by decide
    exact bearerThen_unopened inClass character more (other character marked)

/-- The characters of a bearer credential are not blanks. -/
theorem bearerCharacter_visible (character : Char) (member : bearerCharacter character = true) :
    blank character = false := by
  have coded (low : 0x30 ≤ character.toNat) (high : character.toNat ≤ 0x7A) :
      blank character = false := by
    simp only [blank, List.contains_eq_mem, List.mem_cons, List.not_mem_nil, or_false,
      Bool.or_eq_false_iff, decide_eq_false_iff_not, Bool.and_eq_false_iff]
    omega
  simp only [bearerCharacter, alphanumeric, Bool.or_eq_true, decide_eq_true_eq,
    List.contains_eq_mem, Char.le_def, UInt32.le_iff_toNat_le] at member
  rcases member with (range | other) | folded
  · have bounds : 0x30 ≤ character.toNat ∧ character.toNat ≤ 0x7A := by
      rcases range with ⟨low, high⟩ | ⟨low, high⟩ | ⟨low, high⟩ <;>
        exact ⟨Nat.le_trans (by decide) low, Nat.le_trans high (by decide)⟩
    exact coded bounds.1 bounds.2
  · have listed : ∀ other ∈ "._~+/=-".toList, blank other = false := by decide
    exact listed character other
  · simp only [List.mem_cons, List.not_mem_nil, or_false] at folded
    rcases folded with here | here | here | here <;> simp [blank, here]

/-- Every pattern of redaction is sealed. -/
theorem secretValuePatterns_sealed : ∀ pattern ∈ secretValuePatterns, Sealed pattern := by
  simp only [secretValuePatterns, List.forall_mem_cons, List.not_mem_nil, false_implies,
    implies_true, and_true]
  refine ⟨?_, bearerThen_sealed _ bearerCharacter_visible (by decide), ?_, ?_, ?_, ?_⟩
  · exact literalThen_sealed "sk-" _ 's' ['k', '-'] (by decide) (by decide) (by decide) (by decide)
  · exact literalThen_sealed "tbk_h_" _ 't' ['b', 'k', '_', 'h', '_'] (by decide) (by decide)
      (by decide) (by decide)
  · exact literalThen_sealed "tbk_w_" _ 't' ['b', 'k', '_', 'w', '_'] (by decide) (by decide)
      (by decide) (by decide)
  · exact literalThen_sealed "tbk_i_" _ 't' ['b', 'k', '_', 'i', '_'] (by decide) (by decide)
      (by decide) (by decide)
  · exact literalThen_sealed "tbk_l_" _ 't' ['b', 'k', '_', 'l', '_'] (by decide) (by decide)
      (by decide) (by decide)

/-! ## Markers -/

section Markers

variable {pattern : List Char → Option Nat}

/-- Nothing is replaced in a marker. -/
theorem substitute_marker (sealed : Sealed pattern) (marked more : List Char)
    (within : ∀ character ∈ marked, character ∈ redactedSecret.toList) :
    substitute pattern 0 (marked ++ more) = marked ++ substitute pattern 0 more := by
  induction marked with
  | nil => rfl
  | cons character rest inductionHypothesis =>
    obtain ⟨here, later⟩ := List.forall_mem_cons.mp within
    rw [List.cons_append, substitute, sealed.unopened character here, inductionHypothesis later]
    rfl

/-- What precedes a marker and what follows it are redacted by themselves. -/
theorem substitute_split (sealed : Sealed pattern) (skipped : Nat) (text more : List Char)
    (inside : skipped ≤ text.length) :
    substitute pattern skipped (text ++ redactedSecret.toList ++ more) =
      substitute pattern skipped text ++ redactedSecret.toList ++ substitute pattern 0 more := by
  obtain ⟨others, opened⟩ : ∃ others, redactedSecret.toList = '[' :: others := ⟨_, rfl⟩
  induction text generalizing skipped with
  | nil =>
    obtain rfl : skipped = 0 := Nat.le_zero.mp inside
    rw [List.nil_append, substitute_marker sealed _ _ (fun _ member => member), substitute]
    rfl
  | cons character rest inductionHypothesis =>
    cases skipped with
    | succ skipped => exact inductionHypothesis skipped (Nat.le_of_succ_le_succ inside)
    | zero =>
      have alike : pattern (character :: rest ++ redactedSecret.toList ++ more) =
          pattern (character :: rest) := by
        rw [opened, List.append_assoc]
        exact sealed.stops (character :: rest) (others ++ more)
      rw [List.cons_append, List.cons_append] at alike ⊢
      rw [substitute, alike, substitute]
      cases matched : pattern (character :: rest) with
      | some length =>
        have bounds := sealed.bounded _ length matched
        rw [List.length_cons] at bounds
        have later := inductionHypothesis (length - 1) (by omega)
        simp only [later]
        simp only [List.append_assoc]
      | none => simp only [inductionHypothesis 0 (Nat.zero_le _), List.cons_append]

/-- Texts with a marker between two of them are put behind others with a marker in between. -/
theorem intercalate_append (marker : List Char) (texts others : List (List Char))
    (some : texts ≠ []) (more : others ≠ []) : marker.intercalate (texts ++ others) =
      marker.intercalate texts ++ marker ++ marker.intercalate others := by
  induction texts with
  | nil => exact absurd rfl some
  | cons text rest inductionHypothesis =>
    rw [List.cons_append, List.intercalate_cons_of_ne_nil (by simp [more])]
    cases rest with
    | nil => rw [List.nil_append, List.intercalate_singleton]
    | cons next later =>
      rw [inductionHypothesis (by simp), List.intercalate_cons_cons]
      simp only [List.append_assoc]

/-- A text is redacted to what a pattern leaves of it, with a marker between two parts. -/
theorem substitute_cut (skipped place : Nat) (text : List Char) :
    substitute pattern skipped text =
      redactedSecret.toList.intercalate ((cut pattern skipped place text).map Text.Part.text) := by
  induction text generalizing skipped place with
  | nil => rfl
  | cons character rest inductionHypothesis =>
    cases skipped with
    | succ skipped => exact inductionHypothesis skipped (place + 1)
    | zero =>
      cases matched : pattern (character :: rest) with
      | some length =>
        rw [substitute, cut, matched]
        simp only [List.map_cons]
        rw [List.intercalate_cons_of_ne_nil (by simpa using cut_ne_nil _ _ _), List.nil_append,
          ← inductionHypothesis]
      | none =>
        obtain ⟨first, later, left, same⟩ := cut_grown place character rest matched
        rw [substitute, matched, same]
        simp only [inductionHypothesis 0 (place + 1), left, List.map_cons]
        rw [List.intercalate_cons_cons_left]

/-- Texts with markers between them are redacted one by one. -/
theorem substitute_intercalate (sealed : Sealed pattern) (parts : List (Text.Part Char))
    (some : parts ≠ []) :
    substitute pattern 0 (redactedSecret.toList.intercalate (parts.map Text.Part.text)) =
      redactedSecret.toList.intercalate
        ((parts.flatMap (fun part => cut pattern 0 part.start part.text)).map Text.Part.text) := by
  induction parts with
  | nil => exact absurd rfl some
  | cons part rest inductionHypothesis =>
    cases rest with
    | nil =>
      rw [List.map_singleton, List.intercalate_singleton, List.flatMap_singleton,
        substitute_cut 0 part.start]
    | cons next later =>
      have first : (part :: next :: later).flatMap (fun part => cut pattern 0 part.start part.text) =
          cut pattern 0 part.start part.text ++
            (next :: later).flatMap (fun part => cut pattern 0 part.start part.text) :=
        List.flatMap_cons
      rw [List.map_cons, List.map_cons, List.intercalate_cons_cons, substitute_split sealed _ _ _
        (Nat.zero_le _), ← List.map_cons, inductionHypothesis (by simp), first, List.map_append,
        substitute_cut 0 part.start, intercalate_append]
      · simpa using cut_ne_nil _ _ _
      · simp [cut_ne_nil]

end Markers

/-! ## Texts -/

/-- The parts that redaction leaves of a text. -/
def remains (text : List Char) : List (Text.Part Char) := cutAll secretValuePatterns [⟨0, text⟩]

/-- Parts with markers between them are redacted to what is left of the parts. -/
theorem foldl_intercalate (patterns : List (List Char → Option Nat))
    (sealed : ∀ pattern ∈ patterns, Sealed pattern) (parts : List (Text.Part Char))
    (some : parts ≠ []) :
    patterns.foldl (fun redacted pattern => substitute pattern 0 redacted)
        (redactedSecret.toList.intercalate (parts.map Text.Part.text)) =
      redactedSecret.toList.intercalate ((cutAll patterns parts).map Text.Part.text) := by
  induction patterns generalizing parts with
  | nil => rfl
  | cons pattern rest inductionHypothesis =>
    obtain ⟨sealed_here, sealed_later⟩ := List.forall_mem_cons.mp sealed
    rw [List.foldl_cons, substitute_intercalate sealed_here parts some]
    refine inductionHypothesis sealed_later _ ?_
    obtain ⟨first, later, rfl⟩ := List.exists_cons_of_ne_nil some
    simp [cut_ne_nil]

/-- A text is redacted to what is left of it, with a marker between two parts. -/
theorem redactText_remains (text : String) :
    (redactText text).toList =
      redactedSecret.toList.intercalate ((remains text.toList).map Text.Part.text) := by
  have here := foldl_intercalate secretValuePatterns secretValuePatterns_sealed
    [⟨0, text.toList⟩] (by simp)
  rw [List.map_singleton, List.intercalate_singleton] at here
  rw [redactText, String.toList_ofList, here, remains]

/-- Nothing is left to redact in a redacted text: no pattern matches in what is left of it, and none
matches into a marker or out of one. -/
theorem redactText_redactText (text : String) : redactText (redactText text) = redactText text := by
  have left : remains text.toList ≠ [] := cutAll_ne_nil _ _ (by simp)
  have again := foldl_intercalate secretValuePatterns secretValuePatterns_sealed
    (remains text.toList) left
  have clean : cutAll secretValuePatterns (remains text.toList) = remains text.toList :=
    cutAll_of_absent _ _ (cutAll_absent _
      (fun pattern listed => (secretValuePatterns_sealed pattern listed).toReads) _)
  rw [clean, ← redactText_remains] at again
  rw [redactText, again, String.ofList_toList]

end Redaction

end TokenBank
