import TokenBank.Observability.Written

/-!
# Matches in what JSON writes, in characters

The rules find in what JSON writes for a text what they find in the text but for three reasons. The
t that is written for a tab starts a token that continues behind the tab. The escape of a character
ends as the word bearer starts, and the rest of a credential follows. And a bearer credential has a
character that is not printable: another blank than a space, or a letter beyond ASCII.
-/

namespace TokenBank

namespace ReportGenerator

open Redaction Text Canonical

/-! ## Literals -/

section Literals

variable {replacement opening : String} {inClass : Char → Bool}

/-- A literal and a run match no text exactly if it does not start with the literal and a character
of the run. -/
theorem replacing_eq_none_iff (text : List Char) :
    (replacing replacement (literalThen opening inClass)).pattern text = none ↔
      ¬ ∃ next more, text = opening.toList ++ next :: more ∧ inClass next = true := by
  rw [← literalThen_isSome_iff, Option.not_isSome_iff_eq_none]
  exact Option.map_eq_none_iff

/-- The t that is written for a tab starts a match exactly if the rest of the literal and a character
of the run stand behind the tab. -/
theorem asWritten_tab (plain : Plain opening inClass) (first : Char) (others : List Char)
    (starts : opening.toList = first :: others) (letter : first ∈ ['t', 's']) (rest : List Char) :
    asWritten (replacing replacement (literalThen opening inClass)) ('\t' :: rest) = none ↔
      ¬ (first = 't' ∧ ∃ next more, rest = others ++ next :: more ∧ inClass next = true) := by
  have escape : asciiEscaped '\t' = ['\\', 't'] := by decide
  have behind : (replacing replacement (literalThen opening inClass)).pattern
      ('t' :: asciiText rest) = none ↔
        ¬ ∃ next more, 't' :: rest = opening.toList ++ next :: more ∧ inClass next = true := by
    have written : 't' :: asciiText rest = asciiText ('t' :: rest) := rfl
    rw [written, replacing_asciiText replacement plain, replacing_eq_none_iff]
  rw [asWritten, escape, matchWithin_eq_none_iff]
  constructor
  · rintro unmatched ⟨rfl, next, more, rfl, member⟩
    refine behind.mp (unmatched ['t'] (by decide) (by decide)) ⟨next, more, ?_, member⟩
    rw [starts, List.cons_append]
  · intro absent tail within some
    obtain ⟨head, tail, rfl⟩ := List.exists_cons_of_ne_nil some
    by_cases same : first = head
    · subst same
      have only : first = 't' ∧ tail = [] := by
        have tails : ∀ tail ∈ ['\\', 't'].tails, ∀ first ∈ ['t', 's'], tail.head? = .some first →
            first = 't' ∧ tail.tail = [] := by decide
        exact tails _ ((List.mem_tails _ _).mpr within) first letter rfl
      obtain ⟨rfl, rfl⟩ := only
      refine behind.mpr ?_
      rintro ⟨next, more, whole, member⟩
      rw [starts, List.cons_append] at whole
      exact absent ⟨rfl, next, more, (List.cons.inj whole).2, member⟩
    · exact replacing_unopened first others starts head same _

/-- What a literal and a run match in what JSON writes from a character on differs from what they
match in the text only at a tab. -/
theorem asWritten_literal_iff (plain : Plain opening inClass) (first : Char) (others : List Char)
    (starts : opening.toList = first :: others) (letter : first ∈ ['t', 's'])
    (character : Char) (rest : List Char) :
    asWritten (replacing replacement (literalThen opening inClass)) (character :: rest) =
        (replacing replacement (literalThen opening inClass)).pattern (character :: rest) ↔
      ¬ (character = '\t' ∧ first = 't' ∧
        ∃ next more, rest = others ++ next :: more ∧ inClass next = true) := by
  by_cases written : asciiEscaped character = [character]
  · refine iff_of_true (asWritten_plain plain character rest written) ?_
    rintro ⟨rfl, -⟩
    exact absurd written (by decide)
  · have other : first ≠ character := by
      rintro rfl
      exact written (plain.1 first (by simp [starts]))
    rw [replacing_unopened first others starts character other]
    by_cases tab : character = '\t'
    · subst tab
      rw [asWritten_tab plain first others starts letter rest]
      simp
    · refine iff_of_true ?_ (fun found => tab found.1)
      rw [asWritten, matchWithin_eq_none_iff]
      intro tail within some
      obtain ⟨head, tail, rfl⟩ := List.exists_cons_of_ne_nil some
      refine replacing_unopened first others starts head ?_ _
      rintro rfl
      exact escape_unopened character first letter written tab (within.subset List.mem_cons_self)

/-- A tab stands in a text before others of the characters of a literal and a character of the
run. -/
def TabBefore (others : List Char) (inClass : Char → Bool) (text : List Char) : Prop :=
  ∃ next more, inClass next = true ∧ '\t' :: (others ++ next :: more) <:+ text

/-- What a literal and a run match in what JSON writes for a text is what they match in the text,
unless the literal starts with a t and a tab stands before its rest. -/
theorem literal_agrees_iff (plain : Plain opening inClass) (first : Char) (others : List Char)
    (starts : opening.toList = first :: others) (letter : first ∈ ['t', 's'])
    (rule : Rule Char) (same_rule : rule = replacing replacement (literalThen opening inClass))
    (text : List Char) :
    rule.agrees (asWritten rule) 0 text = true ↔
      ¬ (first = 't' ∧ TabBefore others inClass text) := by
  subst same_rule
  rw [Rule.agrees_iff]
  constructor
  · rintro agrees ⟨same, next, more, member, within⟩
    rcases Rule.place_or_taken 0 text '\t' _ within with
      long | looked | ⟨place, -, kept, length, matched, taken⟩
    · have short := within.length_le
      omega
    · exact (asWritten_literal_iff plain first others starts letter '\t' _).mp (agrees _ looked)
        ⟨rfl, same, next, more, rfl, member⟩
    · obtain ⟨run, after, rfl, ⟨-, inside⟩, -, rfl, rfl⟩ :=
        (replacing_eq_some_iff _ _ _).mp matched
      rw [← List.append_assoc, ← List.length_append, List.take_left] at taken
      have written : asciiEscaped '\t' = ['\t'] := by
        rcases List.mem_append.mp taken with here | here
        · exact plain.1 _ here
        · exact plain.2 _ (inside _ here)
      exact absurd written (by decide)
  · intro absent place listed
    obtain ⟨within, filled⟩ := Rule.places_within 0 text place listed
    obtain ⟨character, rest, rfl⟩ := List.exists_cons_of_ne_nil filled
    refine (asWritten_literal_iff plain first others starts letter character rest).mpr ?_
    rintro ⟨rfl, same, next, more, rfl, member⟩
    exact absent ⟨same, next, more, member, within⟩

end Literals

/-! ## Bearer credentials -/

/-- A character that is written as it is is a printable one of ASCII. -/
theorem printable_of_plain (character : Char) (written : asciiEscaped character = [character]) :
    32 ≤ character.toNat ∧ character.toNat ≤ 126 := by
  have escaped := asciiEscaped_escaped character
  rw [written] at escaped
  generalize single : [character] = text at escaped
  cases escaped with
  | plain printable => exact printable
  | letter => simp at single
  | code digits =>
    obtain ⟨rfl, -⟩ := List.cons.inj single
    exact absurd written (by decide)

/-- A bearer credential is matched exactly if a text starts with the word, blanks and a character of
the run. -/
theorem bearerRule_isSome_iff (text : List Char) : (bearerRule.pattern text).isSome = true ↔
    ∃ word blanks next more, text = word ++ (blanks ++ next :: more) ∧
      word.flatMap lowerCharacter = "bearer".toList ∧ blanks ≠ [] ∧
      (∀ other ∈ blanks, blank other = true) ∧ credentialCharacter next = true := by
  rw [← bearerThen_isSome_iff credentialCharacter credentialCharacter_visible]
  exact Eq.congr_left (Option.isSome_map ..)

/-- Where a character is written as it is, a bearer credential is found alike exactly if all of its
characters are written as they are. -/
theorem bearer_plain_iff (character : Char) (rest : List Char)
    (written : asciiEscaped character = [character]) :
    asWritten bearerRule (character :: rest) = bearerRule.pattern (character :: rest) ↔
      ∀ kept length, bearerRule.pattern (character :: rest) = some (kept, length) →
        ∀ other ∈ (character :: rest).take length, asciiEscaped other = [other] := by
  constructor
  · intro same kept length matched other taken
    rw [matched] at same
    obtain ⟨letters, blanks, run, after, here, -, -⟩ :=
      asWritten_bearer character rest kept length same
    rw [here.taken] at taken
    rcases List.mem_cons.mp taken with rfl | taken
    · exact written
    · exact here.plain other taken
  · intro plain
    have front : asWritten bearerRule (character :: rest) =
        bearerRule.pattern (asciiText (character :: rest)) := by
      rw [asWritten, asciiText_cons, written, matchWithin]
      cases bearerRule.pattern (character :: [] ++ asciiText rest) <;> rfl
    cases matched : bearerRule.pattern (character :: rest) with
    | none =>
      cases found : asWritten bearerRule (character :: rest) with
      | none => rfl
      | some found_match =>
        obtain ⟨letters, blanks, run, after, here, spelled, -⟩ :=
          asWritten_bearer character rest found_match.1 found_match.2 found
        obtain ⟨next, others, rfl⟩ := List.exists_cons_of_ne_nil here.visible.1
        have some_match : (bearerRule.pattern (character :: rest)).isSome = true :=
          (bearerRule_isSome_iff _).mpr ⟨character :: letters, blanks, next, others ++ after,
            by rw [here.parts]; rfl, whole_word character letters written spelled,
            here.hidden.1, here.hidden.2, here.visible.2 next List.mem_cons_self⟩
        rw [matched] at some_match
        cases some_match
    | some found =>
      obtain ⟨word, blanks, run, after, whole, spelled, hidden, visible, ends, kept, length⟩ :=
        (bearerRule_eq_some_iff _ _ _).mp matched
      have six : word.length = 6 := lowered_length word _ (by decide) spelled
      have each := plain found.1 found.2 matched
      have counted : found.2 = (word ++ (blanks ++ run)).length := by
        rw [length, kept, List.length_append, List.length_append, six, Nat.add_assoc]
      have parted : word ++ (blanks ++ (run ++ after)) = word ++ (blanks ++ run) ++ after := by
        simp only [List.append_assoc]
      rw [whole, parted, counted, List.take_left] at each
      rw [front, whole, parted, asciiText_plain _ _ each]
      refine (bearerRule_eq_some_iff _ _ _).mpr ⟨word, blanks, run, asciiText after,
        by simp only [List.append_assoc], spelled, hidden, visible, ?_, kept, length⟩
      intro next first
      rcases asciiText_head after next first with rfl | ⟨head, -⟩
      · decide
      · exact ends next head

/-- A character whose escape ends as the word bearer starts stands before the rest of the word,
spaces and a character of a credential. -/
def Completes (character : Char) (rest : List Char) : Prop :=
  asciiEscaped character ≠ [character] ∧
    ∃ ending ∈ ["b".toList, "be".toList, "bea".toList], ending <:+ asciiEscaped character ∧
      ∃ letters spaces next more, rest = letters ++ (spaces ++ next :: more) ∧
        ending ++ letters.flatMap lowerCharacter = "bearer".toList ∧
        (spaces ≠ [] ∧ ∀ space ∈ spaces, space = ' ') ∧
        credentialCharacter next = true ∧ next.toNat < 128

/-- An end of an escape that starts the word bearer is b, be or bea. -/
theorem ending_of_escape (character : Char) (ending letters : List Char)
    (escaped : asciiEscaped character ≠ [character]) (within : ending <:+ asciiEscaped character)
    (some : ending ≠ []) (spelled : (ending ++ letters).flatMap lowerCharacter = "bearer".toList) :
    ending ∈ ["b".toList, "be".toList, "bea".toList] ∧
      ending ++ letters.flatMap lowerCharacter = "bearer".toList := by
  have six : (ending ++ letters).length = 6 := lowered_length _ _ (by decide) spelled
  have short : ending.length ≤ 3 := by
    obtain ⟨head, tail, rfl⟩ := List.exists_cons_of_ne_nil some
    obtain ⟨front, escape⟩ := within
    have two := word_in_escape character head front tail (head :: tail ++ letters) escape.symm letters
      (List.take_of_length_le six.le) spelled
    rw [List.length_cons]
    omega
  -- The letters of the word that stand in escapes are small ones.
  have small : ∀ digit ∈ ending, lowerCharacter digit = [digit] := by
    intro digit member
    have listed : digit ∈ "\\\"nrtfbu0123456789abcdef".toList := by
      have present := within.subset member
      have written := asciiEscaped_escaped character
      generalize asciiEscaped character = text at escaped present written
      cases written with
      | plain => exact absurd rfl escaped
      | letter mark listed =>
        have marks : ∀ mark ∈ "\"\\nrtfb".toList, mark ∈ "\\\"nrtfbu0123456789abcdef".toList := by
          decide
        rcases List.mem_cons.mp present with rfl | present
        · decide
        · exact marks _ (List.mem_singleton.mp present ▸ listed)
      | code digits listed =>
        have marks : ∀ mark ∈ "\\u0123456789abcdef".toList,
            mark ∈ "\\\"nrtfbu0123456789abcdef".toList := by decide
        rcases List.mem_cons.mp present with rfl | present
        · decide
        · exact marks _ (listed digit present)
    have letter := word_letters _ spelled digit (List.mem_append_left _ member)
    have each : ∀ digit ∈ "\\\"nrtfbu0123456789abcdef".toList, digit ∈ "bearBEAR".toList →
        lowerCharacter digit = [digit] := by decide
    exact each digit listed letter
  have kept : ending.flatMap lowerCharacter = ending := by
    rw [List.flatMap_congr small, List.flatMap_singleton']
  rw [List.flatMap_append, kept] at spelled
  refine ⟨?_, spelled⟩
  have start : ending = "bearer".toList.take ending.length := by
    rw [← spelled, List.take_left]
  have long := List.length_pos_iff.mpr some
  have lengths : ∀ length < 4, 0 < length →
      "bearer".toList.take length ∈ ["b".toList, "be".toList, "bea".toList] := by decide
  rw [start]
  exact lengths _ (by omega) long

/-- A character of a credential is written as it is exactly if it is one of ASCII. -/
theorem credential_plain_iff (character : Char) (member : credentialCharacter character = true) :
    asciiEscaped character = [character] ↔ character.toNat < 128 := by
  constructor
  · intro written
    have printable := printable_of_plain character written
    omega
  · intro small
    have codes : ∀ code < 128, credentialCharacter (Char.ofNat code) = true →
        asciiEscaped (Char.ofNat code) = [Char.ofNat code] := by decide +kernel
    have coded := codes character.toNat small
    rw [Char.ofNat_toNat] at coded
    exact coded member

/-- Where a character is escaped, a bearer credential is found alike, that is, not at all, exactly if
the escape does not complete one. -/
theorem bearer_escaped_iff (character : Char) (rest : List Char)
    (escaped : asciiEscaped character ≠ [character]) :
    asWritten bearerRule (character :: rest) = bearerRule.pattern (character :: rest) ↔
      ¬ Completes character rest := by
  have letter_plain : ∀ letter ∈ "bearBEAR".toList, asciiEscaped letter = [letter] := by decide
  have unopened : bearerRule.pattern (character :: rest) = none := by
    refine bearerRule_unopened character ?_ ?_ rest <;>
      (rintro rfl; exact escaped (letter_plain _ (by decide)))
  rw [unopened]
  constructor
  · rintro unmatched ⟨-, ending, listed, within, letters, spaces, next, more, rfl, spelled,
      ⟨some, only⟩, member, small⟩
    have filled : ending ≠ [] := by
      rintro rfl
      exact absurd listed (by decide)
    have absent := (matchWithin_eq_none_iff _ _ _).mp unmatched ending within filled
    have small_ending : ending.flatMap lowerCharacter = ending := by
      have each : ∀ ending ∈ ["b".toList, "be".toList, "bea".toList],
          ending.flatMap lowerCharacter = ending := by decide
      exact each ending listed
    have word : (ending ++ letters).flatMap lowerCharacter = "bearer".toList := by
      rw [List.flatMap_append, small_ending, spelled]
    have front : ∀ other ∈ letters ++ spaces ++ [next], asciiEscaped other = [other] := by
      intro other listed
      rcases List.mem_append.mp listed with here | here
      · rcases List.mem_append.mp here with letter | space
        · exact letter_plain other (word_letters _ word other (List.mem_append_right _ letter))
        · rw [only other space]
          decide
      · rw [List.mem_singleton.mp here]
        exact (credential_plain_iff next member).mpr small
    have parted : letters ++ (spaces ++ next :: more) = letters ++ spaces ++ [next] ++ more := by
      simp only [List.append_assoc, List.cons_append, List.nil_append]
    have found : (bearerRule.pattern
        (ending ++ asciiText (letters ++ (spaces ++ next :: more)))).isSome = true := by
      refine (bearerRule_isSome_iff _).mpr ⟨ending ++ letters, spaces, next, asciiText more, ?_, word,
        some, fun space listed => by rw [only space listed]; decide, member⟩
      rw [parted, asciiText_plain _ _ front]
      simp only [List.append_assoc, List.cons_append, List.nil_append]
    rw [absent] at found
    cases found
  · intro incomplete
    cases found : asWritten bearerRule (character :: rest) with
    | none => rfl
    | some found_match =>
      obtain ⟨letters, blanks, run, after, here, ⟨ending, within, some, word⟩, -⟩ :=
        asWritten_bearer character rest found_match.1 found_match.2 found
      obtain ⟨next, others, rfl⟩ := List.exists_cons_of_ne_nil here.visible.1
      obtain ⟨listed, spelled⟩ := ending_of_escape character ending letters escaped within some word
      have member := here.visible.2 next List.mem_cons_self
      refine absurd ⟨escaped, ending, listed, within, letters, blanks, next, others ++ after,
        here.parts, spelled, ⟨here.hidden.1, fun space listed => ?_⟩, member,
        (credential_plain_iff next member).mp (here.plain next (by simp))⟩ incomplete
      -- Of the blanks, only a space is written as it is.
      have printable := printable_of_plain space (here.plain space (by simp [listed]))
      have codes : ∀ code < 127, 32 ≤ code → blank (Char.ofNat code) = true →
          Char.ofNat code = ' ' := by decide +kernel
      have coded := codes space.toNat (by omega) printable.1
      rw [Char.ofNat_toNat] at coded
      exact coded (here.hidden.2 space listed)

/-- A bearer credential has only printable characters of ASCII, so that its blanks are spaces. -/
def PrintableMatches (text : List Char) : Prop :=
  ∀ place ∈ bearerRule.places 0 text, ∀ kept length, bearerRule.pattern place = some (kept, length) →
    ∀ character ∈ place.take length, 32 ≤ character.toNat ∧ character.toNat ≤ 126

/-- No character of a bearer credential is a quote or a backslash. -/
theorem bearer_unquoted (text : List Char) (kept length : Nat)
    (matched : bearerRule.pattern text = some (kept, length)) :
    ∀ character ∈ text.take length, character ≠ '"' ∧ character ≠ '\\' := by
  obtain ⟨word, blanks, run, after, rfl, spelled, ⟨-, hidden⟩, ⟨-, visible⟩, -, rfl, rfl⟩ :=
    (bearerRule_eq_some_iff _ _ _).mp matched
  have six : word.length = 6 := lowered_length word _ (by decide) spelled
  have long : 6 + blanks.length + run.length = (word ++ (blanks ++ run)).length := by
    rw [List.length_append, List.length_append, six, Nat.add_assoc]
  have parted : word ++ (blanks ++ (run ++ after)) = word ++ (blanks ++ run) ++ after := by
    simp only [List.append_assoc]
  rw [parted, long, List.take_left]
  intro character listed
  rcases List.mem_append.mp listed with letter | listed
  · have each : ∀ letter ∈ "bearBEAR".toList, letter ≠ '"' ∧ letter ≠ '\\' := by decide
    exact each character (word_letters word spelled character letter)
  · rcases List.mem_append.mp listed with space | member
    · constructor <;> (rintro rfl; exact absurd (hidden _ space) (by decide))
    · constructor <;> (rintro rfl; exact absurd (visible _ member) (by decide))

/-- What JSON writes for a text has the bearer credentials of the text exactly if these are
printable and no escape completes another one. -/
theorem bearer_agrees_iff (text : List Char) :
    bearerRule.agrees (asWritten bearerRule) 0 text = true ↔
      PrintableMatches text ∧ ∀ character rest, character :: rest <:+ text →
        ¬ Completes character rest := by
  rw [Rule.agrees_iff]
  constructor
  · intro agrees
    have plain : ∀ place ∈ bearerRule.places 0 text, ∀ kept length,
        bearerRule.pattern place = some (kept, length) →
          ∀ character ∈ place.take length, asciiEscaped character = [character] := by
      intro place listed kept length matched
      obtain ⟨character, rest, rfl⟩ :=
        List.exists_cons_of_ne_nil (Rule.places_within 0 text place listed).2
      have same := agrees _ listed
      by_cases written : asciiEscaped character = [character]
      · exact (bearer_plain_iff character rest written).mp same kept length matched
      · have letter_plain : ∀ letter ∈ "bB".toList, asciiEscaped letter = [letter] := by decide
        rw [bearerRule_unopened character
          (by rintro rfl; exact written (letter_plain _ (by decide)))
          (by rintro rfl; exact written (letter_plain _ (by decide)))] at matched
        cases matched
    refine ⟨fun place listed kept length matched character taken =>
      printable_of_plain character (plain place listed kept length matched character taken), ?_⟩
    intro character rest within completes
    rcases Rule.place_or_taken 0 text character rest within with
      long | looked | ⟨place, listed, kept, length, matched, taken⟩
    · have short := within.length_le
      omega
    · exact (bearer_escaped_iff character rest completes.1).mp (agrees _ looked) completes
    · exact completes.1 (plain place listed kept length matched character taken)
  · rintro ⟨printable, incomplete⟩ place listed
    obtain ⟨within, filled⟩ := Rule.places_within 0 text place listed
    obtain ⟨character, rest, rfl⟩ := List.exists_cons_of_ne_nil filled
    by_cases written : asciiEscaped character = [character]
    · refine (bearer_plain_iff character rest written).mpr ?_
      intro kept length matched other taken
      have unquoted := bearer_unquoted _ kept length matched other taken
      exact asciiEscaped_printable other (printable _ listed kept length matched other taken)
        unquoted.1 unquoted.2
    · exact (bearer_escaped_iff character rest written).mpr (incomplete character rest within)

/-! ## All the rules -/

/-- Letters and digits of ASCII are written as they are. -/
theorem alphanumeric_plain (character : Char) (member : alphanumeric character = true) :
    asciiEscaped character = [character] := by
  have codes : (65 ≤ character.toNat ∧ character.toNat ≤ 90) ∨
      (97 ≤ character.toNat ∧ character.toNat ≤ 122) ∨
      48 ≤ character.toNat ∧ character.toNat ≤ 57 := by
    simpa [alphanumeric, Char.le_def, UInt32.le_iff_toNat_le, or_assoc] using member
  apply asciiEscaped_printable character (by omega)
  · rintro rfl
    exact absurd codes (by decide)
  · rintro rfl
    exact absurd codes (by decide)

/-- The characters of a token. -/
def tokenCharacter (character : Char) : Bool := alphanumeric character || character = '_'

/-- The rule for tokens that start with a prefix. -/
def tokenRule (opening : String) : Rule Char :=
  replacing redactedToken (literalThen opening tokenCharacter)

/-- The rules are those for the three tokens, for keys and for bearer credentials. -/
theorem rules_eq : rules = ["tbk_h_", "tbk_w_", "tbk_i_"].map tokenRule ++ [keyRule, bearerRule] :=
  rfl

/-- The characters of a token are written as they are. -/
theorem tokenCharacter_plain (character : Char) (member : tokenCharacter character = true) :
    asciiEscaped character = [character] := by
  rw [tokenCharacter, Bool.or_eq_true, decide_eq_true_eq] at member
  rcases member with plain | rfl
  · exact alphanumeric_plain character plain
  · decide

/-- The characters of a key are written as they are. -/
theorem keyCharacter_plain (character : Char) (member : keyCharacter character = true) :
    asciiEscaped character = [character] := by
  simp only [keyCharacter, Bool.or_eq_true, decide_eq_true_eq] at member
  rcases member with (plain | rfl) | rfl
  · exact alphanumeric_plain character plain
  · decide
  · decide

/-- No tab stands before the rest of a token, the bearer credentials are printable, and no escape
completes another one, each in what the rules before leave of a text. -/
structure Undisturbed (text : List Char) : Prop where
  host : ¬ TabBefore "bk_h_".toList tokenCharacter text
  worker : ¬ TabBefore "bk_w_".toList tokenCharacter ((tokenRule "tbk_h_").apply text)
  internal : ¬ TabBefore "bk_i_".toList tokenCharacter
    ((tokenRule "tbk_w_").apply ((tokenRule "tbk_h_").apply text))
  printable : PrintableMatches (keyRule.apply (redactTokenPrefixes text))
  incomplete : ∀ character rest, character :: rest <:+ keyRule.apply (redactTokenPrefixes text) →
    ¬ Completes character rest

/-- The rules find in what JSON writes for a text what they find in the text exactly if nothing of
these disturbs them. -/
theorem writtenAlike_rules_iff (text : List Char) :
    writtenAlike rules text = true ↔ Undisturbed text := by
  have token (opening : String) (others : List Char) (starts : opening.toList = 't' :: others)
      (plain : ∀ character ∈ opening.toList, asciiEscaped character = [character])
      (text : List Char) :
      (tokenRule opening).agrees (asWritten (tokenRule opening)) 0 text = true ↔
        ¬ TabBefore others tokenCharacter text :=
    (literal_agrees_iff ⟨plain, tokenCharacter_plain⟩ 't' others starts (by decide)
      (tokenRule opening) rfl text).trans (by simp)
  have key (text : List Char) : keyRule.agrees (asWritten keyRule) 0 text = true :=
    (literal_agrees_iff ⟨by decide, keyCharacter_plain⟩ 's' _ rfl (by decide) keyRule rfl text).mpr
      (fun found => absurd found.1 (by decide))
  simp only [rules_eq, List.map_cons, List.map_nil, List.cons_append, List.nil_append, writtenAlike,
    Bool.and_eq_true, Bool.and_true, key, true_and, bearer_agrees_iff]
  rw [token "tbk_h_" "bk_h_".toList rfl (by decide), token "tbk_w_" "bk_w_".toList rfl (by decide),
    token "tbk_i_" "bk_i_".toList rfl (by decide)]
  constructor
  · rintro ⟨host, worker, internal, printable, incomplete⟩
    exact ⟨host, worker, internal, printable, incomplete⟩
  · rintro ⟨host, worker, internal, printable, incomplete⟩
    exact ⟨host, worker, internal, printable, incomplete⟩

end ReportGenerator

end TokenBank
