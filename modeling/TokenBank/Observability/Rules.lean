import TokenBank.Observability.ReportGenerator

/-!
# The rules of report redaction

No match of a rule has a character that JSON puts around values and texts, or a backslash. So the
rules redact a report text by text. Each rule leaves no matches behind, neither of its own pattern
nor of the patterns before it.
-/

namespace TokenBank

namespace Redaction

open Text

/-! ## Literals -/

section Literals

variable {replacement opening : String} {inClass : Char → Bool}

/-- A rule for a literal and a run takes what it matches. -/
theorem replacing_bounded (filled : opening.toList ≠ []) :
    (replacing replacement (literalThen opening inClass)).Bounded := by
  intro text kept length matched
  obtain ⟨found, here, same⟩ := Option.map_eq_some_iff.mp matched
  obtain ⟨rfl, rfl⟩ := Prod.mk.inj same
  exact (literalThen_reads opening inClass filled).bounded text found here

/-- A rule for a literal and a run stops at what neither has. -/
theorem replacing_stops (stop : Char) (open_ : stop ∉ opening.toList)
    (apart : inClass stop = false) :
    (replacing replacement (literalThen opening inClass)).StopsAt stop := fun text more =>
  congrArg (Option.map _) (literalThen_stop opening inClass stop open_ apart text more)

/-- A rule for a literal and a run matches nothing that starts with another character. -/
theorem replacing_unopened (first : Char) (others : List Char)
    (starts : opening.toList = first :: others) (character : Char) (apart : first ≠ character)
    (more : List Char) :
    (replacing replacement (literalThen opening inClass)).pattern (character :: more) = none :=
  congrArg (Option.map _)
    (literalThen_unopened opening inClass first others starts character more apart)

end Literals

/-! ## Bearer credentials -/

/-- A letter of the word bearer is in lower case what the letter is or its capital. -/
theorem lowerCharacter_letter (character letter : Char) (listed : letter ∈ "bearer".toList)
    (lowered : letter ∈ lowerCharacter character) :
    character = letter ∨ character = Char.ofNat (letter.toNat - 32) := by
  unfold lowerCharacter at lowered
  split_ifs at lowered with upper kelvin dotted
  · right
    have codes : 65 ≤ character.toNat ∧ character.toNat ≤ 90 := by
      simpa [Char.le_def, UInt32.le_iff_toNat_le] using upper
    have coded : ∀ code < 128, (Char.ofNat code).toNat = code := by decide
    rw [List.mem_singleton] at lowered
    rw [lowered, coded _ (by omega), Nat.add_sub_cancel, Char.ofNat_toNat]
  · rw [List.mem_singleton] at lowered
    subst lowered
    exact absurd listed (by decide)
  · simp only [List.mem_cons, List.not_mem_nil, or_false] at lowered
    rcases lowered with rfl | rfl <;> exact absurd listed (by decide)
  · exact .inl (List.mem_singleton.mp lowered).symm

/-- The characters of a word that is bearer in lower case. -/
theorem word_letters (word : List Char) (spelled : word.flatMap lowerCharacter = "bearer".toList) :
    ∀ character ∈ word, character ∈ "bearBEAR".toList := by
  intro character listed
  obtain ⟨letter, letters, lowered⟩ := List.exists_cons_of_ne_nil (lowerCharacter_ne_nil character)
  have inWord : letter ∈ "bearer".toList := by
    rw [← spelled]
    exact List.mem_flatMap.mpr ⟨character, listed, by rw [lowered]; exact List.mem_cons_self⟩
  have cases := lowerCharacter_letter character letter inWord
    (by rw [lowered]; exact List.mem_cons_self)
  have each : ∀ letter ∈ "bearer".toList,
      letter ∈ "bearBEAR".toList ∧ Char.ofNat (letter.toNat - 32) ∈ "bearBEAR".toList := by decide
  rcases cases with rfl | rfl
  · exact (each _ inWord).1
  · exact (each _ inWord).2

end Redaction

namespace ReportGenerator

open Redaction Text

/-- The characters of a bearer credential are not blanks. -/
theorem credentialCharacter_visible (character : Char) (member : credentialCharacter character = true) :
    blank character = false := by
  apply bearerCharacter_visible character
  have more : ∀ character ∈ ['.', '_', '-'], character ∈ "._~+/=-".toList := by decide
  simp only [credentialCharacter, Bool.or_eq_true, List.contains_iff_mem] at member
  simp only [bearerCharacter, Bool.or_eq_true, List.contains_iff_mem]
  rcases member with (plain | mark) | folded
  · exact .inl (.inl plain)
  · exact .inl (.inr (more character mark))
  · exact .inr folded

/-- A bearer credential is the word, blanks and a run that the text goes on with. -/
theorem bearerRule_eq_some_iff (text : List Char) (kept length : Nat) :
    bearerRule.pattern text = some (kept, length) ↔ ∃ word blanks run rest,
      text = word ++ (blanks ++ (run ++ rest)) ∧ word.flatMap lowerCharacter = "bearer".toList ∧
      (blanks ≠ [] ∧ ∀ character ∈ blanks, blank character = true) ∧
      (run ≠ [] ∧ ∀ character ∈ run, credentialCharacter character = true) ∧
      (∀ character ∈ rest.head?, credentialCharacter character = false) ∧
      kept = 6 + blanks.length ∧ length = kept + run.length := by
  have found : bearerRule.pattern text = some (kept, length) ↔
      bearerThen credentialCharacter text = some length ∧
        kept = 6 + ((text.drop 6).takeWhile blank).length := by
    change (bearerThen credentialCharacter text).map _ = _ ↔ _
    rw [Option.map_eq_some_iff]
    constructor
    · rintro ⟨_, matched, same⟩
      obtain ⟨rfl, rfl⟩ := Prod.mk.inj same
      exact ⟨matched, rfl⟩
    · rintro ⟨matched, rfl⟩
      exact ⟨_, matched, rfl⟩
  rw [found, bearerThen_eq_some_iff]
  constructor
  · rintro ⟨⟨spelled, some, more, rfl⟩, rfl⟩
    refine ⟨text.take 6, (text.drop 6).takeWhile blank,
      ((text.drop 6).dropWhile blank).takeWhile credentialCharacter,
      ((text.drop 6).dropWhile blank).dropWhile credentialCharacter, ?_, spelled,
      ⟨some, fun _ => List.mem_takeWhile_imp⟩, ⟨more, fun _ => List.mem_takeWhile_imp⟩,
      dropWhile_head _ _, rfl, rfl⟩
    rw [List.takeWhile_append_dropWhile, List.takeWhile_append_dropWhile, List.take_append_drop]
  · rintro ⟨word, blanks, run, rest, rfl, spelled, ⟨some, hidden⟩, ⟨more, visible⟩, ends, rfl, rfl⟩
    have six : word.length = 6 := lowered_length word _ (by decide) spelled
    have seen : ∀ character ∈ (run ++ rest).head?, blank character = false := by
      obtain ⟨first, others, rfl⟩ := List.exists_cons_of_ne_nil more
      rintro character ⟨rfl⟩
      exact credentialCharacter_visible _ (visible _ List.mem_cons_self)
    obtain ⟨taken, left⟩ := takeWhile_run blank blanks (run ++ rest) hidden seen
    rw [List.take_left' six, List.drop_left' six, taken, left,
      (takeWhile_run credentialCharacter run rest visible ends).1]
    exact ⟨⟨spelled, some, more, rfl⟩, rfl⟩

/-- A bearer credential takes what it matches. -/
theorem bearerRule_bounded : bearerRule.Bounded := by
  intro text kept length matched
  obtain ⟨word, blanks, run, rest, rfl, spelled, -, ⟨more, -⟩, -, rfl, rfl⟩ :=
    (bearerRule_eq_some_iff _ _ _).mp matched
  have six : word.length = 6 := lowered_length word _ (by decide) spelled
  have some := List.length_pos_iff.mpr more
  simp only [List.length_append]
  omega

/-- A bearer credential stops at what is neither a letter of bearer, nor a blank, nor in the run. -/
theorem bearerRule_stops (stop : Char) (visible : blank stop = false)
    (apart : credentialCharacter stop = false)
    (other : ∀ letter ∈ lowerCharacter stop, letter ∉ "bearer".toList) :
    bearerRule.StopsAt stop := by
  intro text more
  have same := bearerThen_stop credentialCharacter stop visible apart other text more
  change (bearerThen credentialCharacter (text ++ stop :: more)).map _ =
    (bearerThen credentialCharacter text).map _
  rw [same]
  apply Option.map_congr
  intro length matched
  have enough := ((bearerThen_reads _ credentialCharacter_visible).bounded _ _ matched).2
  obtain ⟨spelled, -, -, total⟩ := (bearerThen_eq_some_iff _ _ _).mp matched
  have after : (text ++ stop :: more).drop 6 = text.drop 6 ++ stop :: more :=
    List.drop_append_of_le_length (by omega)
  rw [after, takeWhile_stop blank stop visible]

/-- A bearer credential starts with a letter b. -/
theorem bearerRule_unopened (character : Char) (small : character ≠ 'b') (large : character ≠ 'B')
    (more : List Char) : bearerRule.pattern (character :: more) = none := by
  refine congrArg (Option.map _) (bearerThen_unopened credentialCharacter character more ?_)
  intro head
  rcases lowerCharacter_letter character 'b' (by decide) (List.mem_of_mem_head? head) with same | same
  · exact small same
  · exact large same

/-- What a bearer credential keeps has no bearer credential. -/
theorem bearerRule_keeps (text : List Char) (kept length : Nat)
    (matched : bearerRule.pattern text = some (kept, length)) :
    bearerRule.Unmatched (text.take kept) := by
  obtain ⟨word, blanks, run, rest, rfl, spelled, ⟨-, hidden⟩, -, -, rfl, -⟩ :=
    (bearerRule_eq_some_iff _ _ _).mp matched
  have six : word.length = 6 := lowered_length word _ (by decide) spelled
  have front : (word ++ (blanks ++ (run ++ rest))).take (6 + blanks.length) = word ++ blanks := by
    rw [← List.append_assoc, List.take_left']
    rw [List.length_append, six]
  rw [front]
  intro tail within
  cases again : bearerRule.pattern tail with
  | none => rfl
  | some found =>
    exfalso
    obtain ⟨other, gap, later, after, rfl, -, ⟨some, empty⟩, ⟨more, visible⟩, -, -, -⟩ :=
      (bearerRule_eq_some_iff _ _ _).mp again
    -- The run of a match would stand behind a blank, and so among the blanks.
    obtain ⟨before, whole⟩ := within
    obtain ⟨first, others, rfl⟩ := List.exists_cons_of_ne_nil more
    obtain ⟨space, spaces, rfl⟩ := List.exists_cons_of_ne_nil some
    have parted : (before ++ other ++ space :: spaces) ++ first :: (others ++ after) =
        word ++ blanks := by
      rw [← whole]
      simp only [List.append_assoc, List.cons_append]
    rcases List.append_eq_append_iff.mp parted with ⟨more, rfl, -⟩ | ⟨more, -, rfl⟩
    · have letters : ∀ letter ∈ "bearBEAR".toList, blank letter = false := by decide
      have letter := word_letters _ spelled space (by simp)
      have absurdity := letters space letter
      rw [empty space List.mem_cons_self] at absurdity
      cases absurdity
    · have seen := credentialCharacter_visible first (visible first List.mem_cons_self)
      rw [hidden first (by simp)] at seen
      cases seen

/-! ## All the rules -/

/-- The rules, in the order in which they are applied. -/
def rules : List (Rule Char) :=
  defaultTokenPrefixPatterns.map (replacing redactedToken) ++ [keyRule, bearerRule]

/-- A text is redacted by one rule after the other. -/
theorem redactText_rules (text : List Char) :
    redactText text = rules.foldl (fun redacted rule => rule.apply redacted) text := rfl

/-- What the rules have in common: a match takes a character that is no bracket, has no character
that JSON puts around values and texts and no backslash, starts with one of a few letters, is not
lost when a text goes on, and keeps nothing that has a match. -/
structure Sound (rule : Rule Char) : Prop where
  bounded : rule.Bounded
  marks : rule.Marks '['
  stops : ∀ stop ∈ '\\' :: Canonical.punctuation, rule.StopsAt stop
  unopened : ∀ character, character ∉ ['t', 's', 'b', 'B'] →
    ∀ more, rule.pattern (character :: more) = none
  words : ∀ word ∈ ["null", "true", "false", ""], rule.apply word.toList = word.toList
  extends_ : ∀ text more, (rule.pattern text).isSome = true →
    (rule.pattern (text ++ more)).isSome = true
  keeps : ∀ text kept length, rule.pattern text = some (kept, length) →
    rule.Unmatched (text.take kept)

/-- The rules for a literal and a run are sound. -/
theorem replacing_sound (replacement opening : String) (others : List Char)
    (inClass : Char → Bool) (first : Char) (marker : ∃ others, replacement.toList = '[' :: others)
    (starts : opening.toList = first :: others) (letter : first ∈ ['t', 's'])
    (apart : ∀ stop ∈ '\\' :: Canonical.punctuation,
      stop ∉ opening.toList ∧ inClass stop = false)
    (words : ∀ word ∈ ["null", "true", "false", ""],
      (replacing replacement (literalThen opening inClass)).apply word.toList = word.toList) :
    Sound (replacing replacement (literalThen opening inClass)) where
  bounded := replacing_bounded (by simp [starts])
  marks := by
    refine ⟨marker, fun text kept length matched => ?_⟩
    obtain ⟨found, here, same⟩ := Option.map_eq_some_iff.mp matched
    obtain ⟨rfl, rfl⟩ := Prod.mk.inj same
    obtain ⟨character, rest, rfl, -⟩ :=
      (literalThen_isSome_iff opening inClass text).mp (by rw [here]; rfl)
    rw [starts]
    rintro ⟨rfl⟩
    exact absurd letter (by decide)
  stops := fun stop listed => replacing_stops stop (apart stop listed).1 (apart stop listed).2
  unopened := by
    intro character other more
    apply replacing_unopened first others starts
    rintro rfl
    revert letter other
    simp only [List.mem_cons, List.not_mem_nil, or_false]
    tauto
  words := words
  extends_ := by
    intro text more
    simp only [replacing, Option.isSome_map]
    exact (literalThen_reads opening inClass (by simp [starts])).extends_ text more
  keeps := by
    intro text kept length matched
    obtain ⟨found, here, same⟩ := Option.map_eq_some_iff.mp matched
    obtain ⟨rfl, -⟩ := Prod.mk.inj same
    rintro rest within
    rw [List.take_zero, List.suffix_nil] at within
    subst within
    exact Rule.pattern_nil (replacing_bounded (by simp [starts]))

/-- The rule for bearer credentials is sound. -/
theorem bearerRule_sound : Sound bearerRule where
  bounded := bearerRule_bounded
  marks := by
    refine ⟨⟨_, rfl⟩, fun text kept length matched marked => ?_⟩
    obtain ⟨word, blanks, run, rest, rfl, spelled, -, ⟨more, visible⟩, -, rfl, -⟩ :=
      (bearerRule_eq_some_iff _ _ _).mp matched
    have six : word.length = 6 := lowered_length word _ (by decide) spelled
    obtain ⟨first, others, rfl⟩ := List.exists_cons_of_ne_nil more
    rw [List.getElem?_append_right (by omega), List.getElem?_append_right (by omega), six] at marked
    simp only [Nat.add_sub_cancel_left, Nat.sub_self, List.cons_append, List.getElem?_cons_zero,
      Option.some.injEq] at marked
    subst marked
    exact absurd (visible '[' List.mem_cons_self) (by decide)
  stops := by
    intro stop listed
    have each : ∀ stop ∈ '\\' :: Canonical.punctuation, blank stop = false ∧
        credentialCharacter stop = false ∧
        ∀ letter ∈ lowerCharacter stop, letter ∉ "bearer".toList := by decide
    obtain ⟨visible, apart, other⟩ := each stop listed
    exact bearerRule_stops stop visible apart other
  unopened := by
    intro character other more
    simp only [List.mem_cons, List.not_mem_nil, or_false, not_or] at other
    exact bearerRule_unopened character other.2.2.1 other.2.2.2 more
  words := by decide
  extends_ := by
    intro text more
    simp only [bearerRule, Option.isSome_map]
    exact (bearerThen_reads _ credentialCharacter_visible).extends_ text more
  keeps := bearerRule_keeps

/-- All the rules are sound. -/
theorem rules_sound : ∀ rule ∈ rules, Sound rule := by
  simp only [rules, defaultTokenPrefixPatterns, keyRule, List.map_cons, List.map_nil,
    List.cons_append, List.nil_append, List.forall_mem_cons, List.not_mem_nil, false_implies,
    implies_true, and_true]
  refine ⟨?_, ?_, ?_, ?_, bearerRule_sound⟩
  · exact replacing_sound _ _ ['b', 'k', '_', 'h', '_'] _ 't' ⟨_, rfl⟩ (by decide) (by decide)
      (by decide) (by decide)
  · exact replacing_sound _ _ ['b', 'k', '_', 'w', '_'] _ 't' ⟨_, rfl⟩ (by decide) (by decide)
      (by decide) (by decide)
  · exact replacing_sound _ _ ['b', 'k', '_', 'i', '_'] _ 't' ⟨_, rfl⟩ (by decide) (by decide)
      (by decide) (by decide)
  · exact replacing_sound _ _ ['k', '-'] _ 's' ⟨_, rfl⟩ (by decide) (by decide) (by decide)
      (by decide)

/-! ## Reports text by text -/

/-- A sound rule keeps what stands around texts. -/
theorem Sound.keepsStructure {rule : Rule Char} (sound : Sound rule) :
    Canonical.KeepsStructure rule.apply where
  splits := fun stop known =>
    Rule.apply_stop sound.bounded (sound.stops stop (List.mem_cons_of_mem _ known))
  blank := fun after => Rule.apply_unmatched ' ' after (sound.unopened ' ' (by decide) after)
  words := sound.words
  numbers := by
    intro text numeric
    apply Rule.Unmatched.apply
    intro tail within
    cases tail with
    | nil => exact Rule.pattern_nil sound.bounded
    | cons character more =>
      have number := numeric character (within.subset List.mem_cons_self)
      refine sound.unopened character (fun listed => ?_) more
      have letters : ∀ letter ∈ ['t', 's', 'b', 'B'],
          Canonical.numericCharacter letter = false := by decide
      rw [letters character listed] at number
      cases number

/-- Redaction keeps what stands around texts. -/
theorem redactText_keepsStructure : Canonical.KeepsStructure redactText := by
  have general (some : List (Rule Char)) (sound : ∀ rule ∈ some, Sound rule) :
      Canonical.KeepsStructure
        (fun text => some.foldl (fun redacted rule => rule.apply redacted) text) := by
    induction some with
    | nil =>
      exact ⟨fun _ _ _ _ => rfl, fun _ => rfl, fun _ _ => rfl, fun _ _ => rfl⟩
    | cons rule rest inductionHypothesis =>
      obtain ⟨here, later⟩ := List.forall_mem_cons.mp sound
      exact here.keepsStructure.comp (inductionHypothesis later)
  exact general rules rules_sound

/-- A redacted report is the value with each text redacted as it is written. -/
theorem redactText_jsonDumps (report : Json) (plain : Canonical.plain report = true) :
    redactText (Canonical.jsonDumps report).toList =
      Canonical.writeValue (fun text => redactText (Canonical.asciiText text.toList))
        (Canonical.ordered report) := by
  rw [Canonical.jsonDumps, String.toList_ofList]
  exact Canonical.pass_writeValue redactText_keepsStructure _ _
    (Canonical.plain_ordered report plain)

/-! ## No matches are left -/

/-- A text has no token, no key and no bearer credential. -/
def Clean (text : List Char) : Prop := ∀ rule ∈ rules, rule.Unmatched text

/-- The marker of a rule. -/
theorem rules_marker : ∀ rule ∈ rules,
    rule.marker = redactedToken.toList ∨ rule.marker = redactedSecret.toList := by
  simp only [rules, defaultTokenPrefixPatterns, keyRule, bearerRule, replacing, List.map_cons,
    List.map_nil, List.cons_append, List.nil_append, List.forall_mem_cons, List.not_mem_nil,
    false_implies, implies_true, and_true, true_or, or_true]

/-- Markers are inert for sound rules. -/
theorem Sound.inert {rule other : Rule Char} (listed : rule ∈ rules) (sound : Sound other) :
    Rule.Inert rule.marker other where
  stops := by
    intro mark others marker
    have brackets : rule.marker.head? = some '[' := by
      rcases rules_marker rule listed with same | same <;> rw [same] <;> rfl
    rw [marker] at brackets
    obtain rfl := Option.some.inj brackets
    exact sound.stops '[' (by decide)
  unopened := by
    intro character marked more
    have each : ∀ character ∈ redactedToken.toList ++ redactedSecret.toList,
        character ∉ ['t', 's', 'b', 'B'] := by decide
    refine sound.unopened character (each character ?_) more
    rw [List.mem_append]
    rcases rules_marker rule listed with same | same
    · exact .inl (same ▸ marked)
    · exact .inr (same ▸ marked)
  extends_ := sound.extends_

/-- A redacted text has no token, no key and no bearer credential. -/
theorem redactText_clean (text : List Char) : Clean (redactText text) := by
  intro rule listed
  have sound := rules_sound rule listed
  rw [redactText_rules]
  refine Rule.foldl_leaves rules text (fun other member => ?_) sound.keeps (.inl listed)
  refine ⟨(rules_sound other member).bounded, ?_, sound.inert member⟩
  rcases rules_marker other member with same | same <;> rw [same] <;> decide

/-! ## Texts that redaction keeps -/

/-- What differs from a text still does after some rules. -/
theorem foldl_differs (some : List (Rule Char)) (sound : ∀ rule ∈ some, Sound rule)
    (text other : List Char) (differs : Rule.DiffersBy '[' text other) :
    Rule.DiffersBy '[' text (some.foldl (fun redacted rule => rule.apply redacted) other) := by
  induction some generalizing other with
  | nil => exact differs
  | cons rule rest inductionHypothesis =>
    obtain ⟨here, later⟩ := List.forall_mem_cons.mp sound
    exact inductionHypothesis later (rule.apply other)
      (differs.apply here.bounded here.marks (here.stops '[' (by decide)))

/-- Redaction keeps a text exactly if that has no token, no key and no bearer credential. -/
theorem redactText_eq_self_iff (text : List Char) : redactText text = text ↔ Clean text := by
  have general (some : List (Rule Char)) (sound : ∀ rule ∈ some, Sound rule) :
      some.foldl (fun redacted rule => rule.apply redacted) text = text ↔
        ∀ rule ∈ some, rule.Unmatched text := by
    induction some with
    | nil => simp
    | cons rule rest inductionHypothesis =>
      obtain ⟨here, later⟩ := List.forall_mem_cons.mp sound
      rw [List.forall_mem_cons, List.foldl_cons]
      by_cases unmatched : rule.Unmatched text
      · rw [unmatched.apply, inductionHypothesis later]
        exact ⟨fun absent => ⟨unmatched, absent⟩, And.right⟩
      · have differs := foldl_differs rest later text _
          (Rule.apply_differs here.bounded here.marks text unmatched)
        exact ⟨fun same => absurd same differs.ne, fun absent => absurd absent.1 unmatched⟩
  exact general rules rules_sound

end ReportGenerator

end TokenBank
