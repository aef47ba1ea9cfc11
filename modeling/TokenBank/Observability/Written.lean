import TokenBank.Observability.Rules

/-!
# Matches in what JSON writes

Redaction looks for matches not in a text but in what JSON writes for it. There a match may start in
the escape of a character: the t of a written tab starts a token, and the last digits of a code
start the word bearer. And a match may end early or be missed: blanks and letters beyond ASCII are
escaped.
-/

namespace TokenBank

namespace Canonical

/-! ## Escapes -/

/-- A hexadecimal digit is one of the letters and digits in escapes. -/
theorem hexDigit_listed : ∀ value < 16, hexDigit value ∈ "0123456789abcdef".toList := by decide

/-- The escape of 16 bits is a backslash, a letter and digits. -/
theorem hexDigits_listed (code : Nat) (small : code < 0x10000) :
    ∀ digit ∈ hexDigits code, digit ∈ "0123456789abcdef".toList := by
  simp only [hexDigits, List.forall_mem_cons, List.not_mem_nil, false_implies, implies_true,
    and_true]
  exact ⟨hexDigit_listed _ (by omega), hexDigit_listed _ (by omega), hexDigit_listed _ (by omega),
    hexDigit_listed _ (by omega)⟩

/-- A character is written as it is, or after a backslash as one letter, as a code, or as a pair
of codes. -/
inductive Escaped (character : Char) : List Char → Prop
  | plain (printable : 32 ≤ character.toNat ∧ character.toNat ≤ 126) (quote : character ≠ '"')
      (backslash : character ≠ '\\') : Escaped character [character]
  | letter (letter : Char) (listed : letter ∈ "\"\\nrtfb".toList)
      (tab : letter = 't' → character = '\t') : Escaped character ['\\', letter]
  | code (digits : List Char) (listed : ∀ digit ∈ digits, digit ∈ "\\u0123456789abcdef".toList) :
      Escaped character ('\\' :: digits)

/-- How a character is written. -/
theorem asciiEscaped_escaped (character : Char) : Escaped character (asciiEscaped character) := by
  have valid : character.toNat < 0xD800 ∨ 0xDFFF < character.toNat ∧ character.toNat < 0x110000 :=
    character.valid
  have unit (code : Nat) (small : code < 0x10000) :
      ∀ digit ∈ unitEscape code, digit ∈ "\\u0123456789abcdef".toList := by
    have each : ∀ digit ∈ "0123456789abcdef".toList, digit ∈ "\\u0123456789abcdef".toList := by decide
    refine List.forall_mem_cons.mpr ⟨by decide, List.forall_mem_cons.mpr ⟨by decide, ?_⟩⟩
    exact fun digit listed => each digit (hexDigits_listed code small digit listed)
  unfold asciiEscaped
  dsimp only
  split_ifs with quote backslash newline carriage tab form back printable short
  · exact .letter _ (by decide) (fun same => absurd same (by decide))
  · exact .letter _ (by decide) (fun same => absurd same (by decide))
  · exact .letter _ (by decide) (fun same => absurd same (by decide))
  · exact .letter _ (by decide) (fun same => absurd same (by decide))
  · exact .letter _ (by decide) (fun _ => tab)
  · exact .letter _ (by decide) (fun same => absurd same (by decide))
  · exact .letter _ (by decide) (fun same => absurd same (by decide))
  · exact .plain printable quote backslash
  · exact .code _ (fun digit listed => unit _ short digit (List.mem_cons_of_mem _ listed))
  · refine .code _ (fun digit listed => ?_)
    have whole : digit ∈ unitEscape (0xD800 + (character.toNat - 0x10000) / 0x400) ++
        unitEscape (0xDC00 + (character.toNat - 0x10000) % 0x400) := List.mem_cons_of_mem _ listed
    rcases List.mem_append.mp whole with high | low
    · exact unit _ (by omega) digit high
    · exact unit _ (by omega) digit low

/-- A printable character of ASCII is written as it is, quotes and backslashes apart. -/
theorem asciiEscaped_printable (character : Char)
    (printable : 32 ≤ character.toNat ∧ character.toNat ≤ 126) (quote : character ≠ '"')
    (backslash : character ≠ '\\') : asciiEscaped character = [character] := by
  have others : character ≠ '\n' ∧ character ≠ '\r' ∧ character ≠ '\t' := by
    refine ⟨?_, ?_, ?_⟩ <;> (rintro rfl; exact absurd printable (by decide))
  simp only [asciiEscaped, if_neg quote, if_neg backslash, if_neg others.1, if_neg others.2.1,
    if_neg others.2.2, if_neg (show character.toNat ≠ 12 by omega),
    if_neg (show character.toNat ≠ 8 by omega), if_pos printable]

/-- What is written before a backslash or an end is written as it is. -/
theorem asciiText_front (front rest after : List Char) (plain : '\\' ∉ front)
    (starts : asciiText rest = front ++ after) :
    ∃ later, rest = front ++ later ∧ asciiText later = after ∧
      ∀ character ∈ front, asciiEscaped character = [character] := by
  induction front generalizing rest with
  | nil => exact ⟨rest, rfl, starts, by simp⟩
  | cons character front inductionHypothesis =>
    rw [List.mem_cons, not_or] at plain
    cases rest with
    | nil => cases starts
    | cons other rest =>
      rw [asciiText_cons] at starts
      have written := asciiEscaped_escaped other
      generalize escape : asciiEscaped other = text at starts written
      cases written with
      | plain =>
        obtain ⟨same_character, after_it⟩ := List.cons.inj starts
        subst same_character
        obtain ⟨later, rfl, same, each⟩ := inductionHypothesis rest plain.2 after_it
        exact ⟨later, rfl, same, List.forall_mem_cons.mpr ⟨escape, each⟩⟩
      | letter => exact absurd (List.cons.inj starts).1 plain.1
      | code => exact absurd (List.cons.inj starts).1 plain.1

/-- Characters that are written as they are stay in front. -/
theorem asciiText_plain (front rest : List Char)
    (each : ∀ character ∈ front, asciiEscaped character = [character]) :
    asciiText (front ++ rest) = front ++ asciiText rest := by
  induction front with
  | nil => rfl
  | cons character front inductionHypothesis =>
    obtain ⟨here, later⟩ := List.forall_mem_cons.mp each
    rw [List.cons_append, asciiText_cons, here, inductionHypothesis later]
    rfl

/-- A text of characters that are written as they are is written as it is. -/
theorem asciiText_self (text : List Char)
    (each : ∀ character ∈ text, asciiEscaped character = [character]) : asciiText text = text := by
  have nothing : asciiText [] = [] := rfl
  have whole := asciiText_plain text [] each
  rwa [nothing, List.append_nil] at whole

/-- What is written for a text starts with a backslash or with the first character of the text. -/
theorem asciiText_head (rest : List Char) : ∀ character ∈ (asciiText rest).head?,
    character = '\\' ∨ rest.head? = some character ∧ asciiEscaped character = [character] := by
  intro character first
  cases rest with
  | nil => cases first
  | cons other rest =>
    rw [asciiText_cons] at first
    have written := asciiEscaped_escaped other
    generalize escape : asciiEscaped other = text at first written
    cases written with
    | plain =>
      have same := Option.some.inj first
      subst same
      exact .inr ⟨rfl, escape⟩
    | letter => exact .inl (Option.some.inj first).symm
    | code => exact .inl (Option.some.inj first).symm

end Canonical

namespace ReportGenerator

open Redaction Text Canonical

/-! ## Matches as they are written -/

/-- The match that a rule finds in the rest of an escape with what follows it, in characters of the
text. -/
def matchWithin (rule : Rule Char) : List Char → List Char → Option (Nat × Nat)
  | [], _ => none
  | character :: rest, following =>
    match rule.pattern (character :: rest ++ following) with
    | some (kept, length) => some (kept - rest.length, length - rest.length)
    | none => matchWithin rule rest following

/-- The match that a rule finds in what JSON writes for a text, if one starts in what is written for
the first character. -/
def asWritten (rule : Rule Char) : List Char → Option (Nat × Nat)
  | [] => none
  | character :: rest => matchWithin rule (asciiEscaped character) (asciiText rest)

/-- Rules, one after the other, find in what JSON writes for a text the matches that they find in
the text, in each where it looks for one. -/
def writtenAlike : List (Rule Char) → List Char → Bool
  | [], _ => true
  | rule :: rest, text =>
    rule.agrees (asWritten rule) 0 text && writtenAlike rest (rule.apply text)

/-- A rule finds no match in an escape if none starts in it. -/
theorem matchWithin_eq_none_iff (rule : Rule Char) (part following : List Char) :
    matchWithin rule part following = none ↔
      ∀ tail, tail <:+ part → tail ≠ [] → rule.pattern (tail ++ following) = none := by
  induction part with
  | nil =>
    simp only [matchWithin, true_iff]
    intro tail within some
    exact absurd (List.suffix_nil.mp within) some
  | cons character rest inductionHypothesis =>
    rw [matchWithin]
    cases matched : rule.pattern (character :: rest ++ following) with
    | some found =>
      simp only [reduceCtorEq, false_iff]
      intro all
      rw [all (character :: rest) List.suffix_rfl (by simp)] at matched
      cases matched
    | none =>
      simp only [inductionHypothesis]
      constructor
      · intro later tail within some
        rcases List.suffix_cons_iff.mp within with rfl | within
        · exact matched
        · exact later tail within some
      · intro all tail within
        exact all tail (within.trans (List.suffix_cons _ _))

/-- A match in an escape starts with some end of it, and what is written before is kept. -/
theorem matchWithin_eq_some (rule : Rule Char) (part following : List Char) (kept length : Nat)
    (matched : matchWithin rule part following = some (kept, length)) :
    ∃ front character rest found total, part = front ++ character :: rest ∧
      rule.pattern (character :: rest ++ following) = some (found, total) ∧
      kept = found - rest.length ∧ length = total - rest.length ∧
      rule.apply (part ++ following) = front ++ rule.apply (character :: rest ++ following) := by
  induction part with
  | nil => cases matched
  | cons character rest inductionHypothesis =>
    rw [matchWithin] at matched
    cases here : rule.pattern (character :: rest ++ following) with
    | some found =>
      rw [here] at matched
      obtain ⟨rfl, rfl⟩ := Prod.mk.inj (Option.some.inj matched)
      exact ⟨[], character, rest, found.1, found.2, rfl, here, rfl, rfl, rfl⟩
    | none =>
      rw [here] at matched
      obtain ⟨front, first, others, found, total, rfl, inside, rfl, rfl, kept⟩ :=
        inductionHypothesis matched
      refine ⟨character :: front, first, others, found, total, rfl, inside, rfl, rfl, ?_⟩
      have unmatched : rule.pattern (character :: (front ++ first :: others ++ following)) = none :=
        here
      rw [List.cons_append, Rule.apply_unmatched _ _ unmatched, kept]
      rfl

/-! ## Broken texts -/

/-- What JSON writes for a text, up to a backslash in front of a marker. -/
def Broken (text : List Char) : Prop := ∃ front more, text = asciiText front ++ '\\' :: '[' :: more

/-- A broken text is refused, whatever follows it. -/
theorem Broken.refused {text : List Char} (broken : Broken text) (rest : List Char) :
    readString (text ++ rest) = none := by
  obtain ⟨front, more, rfl⟩ := broken
  induction front with
  | nil =>
    simp only [asciiText, List.flatMap_nil, List.nil_append, List.cons_append]
    simp [readString, simpleEscape]
  | cons character front inductionHypothesis =>
    rw [asciiText_cons, List.append_assoc, List.append_assoc, readString_asciiEscaped,
      ← List.append_assoc, inductionHypothesis]
    rfl

/-- A broken text is broken behind what JSON writes. -/
theorem Broken.behind {text : List Char} (broken : Broken text) (before : List Char) :
    Broken (asciiText before ++ text) := by
  obtain ⟨front, more, rfl⟩ := broken
  exact ⟨before ++ front, more, by simp [asciiText]⟩

/-- A rule rewrites what JSON writes to what JSON writes, or breaks it. -/
def Writes (rule : Rule Char) : Prop :=
  ∀ text, (∃ left, rule.apply (asciiText text) = asciiText left) ∨ Broken (rule.apply (asciiText text))

/-- What is broken stays broken. -/
theorem Broken.apply {rule : Rule Char} (sound : Sound rule) (writes : Writes rule)
    {text : List Char} (broken : Broken text) : Broken (rule.apply text) := by
  obtain ⟨front, more, rfl⟩ := broken
  have bracket : rule.apply ('[' :: more) = '[' :: rule.apply more := by
    have parted := Rule.apply_stop sound.bounded (sound.stops '[' (by decide)) [] more
    exact parted
  rw [Rule.apply_stop sound.bounded (sound.stops '\\' (by decide)), bracket]
  rcases writes front with ⟨left, same⟩ | ⟨before, after, same⟩
  · exact ⟨left, rule.apply more, by rw [same]⟩
  · exact ⟨before, after ++ '\\' :: '[' :: rule.apply more, by rw [same]; simp⟩

/-! ## Literals -/

section Literals

variable {replacement opening : String} {inClass : Char → Bool}

/-- A match of the rule for a literal and a run is one of the literal and the run, of which nothing
is kept. -/
theorem replacing_eq_some_iff (text : List Char) (kept length : Nat) :
    (replacing replacement (literalThen opening inClass)).pattern text = some (kept, length) ↔
      ∃ run rest, text = opening.toList ++ (run ++ rest) ∧
        (run ≠ [] ∧ ∀ character ∈ run, inClass character = true) ∧
        (∀ character ∈ rest.head?, inClass character = false) ∧
        kept = 0 ∧ length = opening.toList.length + run.length := by
  change (literalThen opening inClass text).map _ = _ ↔ _
  rw [Option.map_eq_some_iff]
  constructor
  · rintro ⟨_, matched, same⟩
    obtain ⟨rfl, rfl⟩ := Prod.mk.inj same
    obtain ⟨run, rest, whole, filled, ends, counted⟩ :=
      (literalThen_eq_some_iff opening inClass text _).mp matched
    exact ⟨run, rest, whole, filled, ends, rfl, counted⟩
  · rintro ⟨run, rest, whole, filled, ends, rfl, counted⟩
    exact ⟨length, (literalThen_eq_some_iff opening inClass text _).mpr
      ⟨run, rest, whole, filled, ends, counted⟩, rfl⟩

/-- The literal and the run of a pattern are written as they are. -/
def Plain (opening : String) (inClass : Char → Bool) : Prop :=
  (∀ character ∈ opening.toList, asciiEscaped character = [character]) ∧
    ∀ character, inClass character = true → asciiEscaped character = [character]

/-- A character that is written as it is is no backslash. -/
theorem not_backslash {character : Char} (written : asciiEscaped character = [character]) :
    character ≠ '\\' := by
  rintro rfl
  exact absurd written (by decide)

/-- A literal and a run match what JSON writes for a text as they match the text. -/
theorem replacing_asciiText (replacement : String) (plain : Plain opening inClass)
    (text : List Char) :
    (replacing replacement (literalThen opening inClass)).pattern (asciiText text) =
      (replacing replacement (literalThen opening inClass)).pattern text := by
  apply Option.ext
  rintro ⟨kept, length⟩
  rw [replacing_eq_some_iff, replacing_eq_some_iff]
  constructor
  · rintro ⟨run, rest, starts, ⟨filled, within⟩, ends, rfl, rfl⟩
    have unescaped : '\\' ∉ opening.toList ++ run := by
      intro listed
      rcases List.mem_append.mp listed with here | here
      · exact not_backslash (plain.1 _ here) rfl
      · exact not_backslash (plain.2 _ (within _ here)) rfl
    obtain ⟨later, rfl, rfl, -⟩ := asciiText_front (opening.toList ++ run) text rest unescaped
      (by rw [starts, List.append_assoc])
    refine ⟨run, later, List.append_assoc _ _ _, ⟨filled, within⟩, ?_, rfl, rfl⟩
    intro character first
    cases member : inClass character with
    | false => rfl
    | true =>
      obtain ⟨others, rfl⟩ : ∃ others, later = character :: others := by
        cases later with
        | nil => cases first
        | cons other others => exact ⟨others, by rw [Option.some.inj first]⟩
      have written : (asciiText (character :: others)).head? = some character := by
        rw [asciiText_cons, plain.2 character member]
        rfl
      rw [← ends character written, member]
  · rintro ⟨run, rest, rfl, ⟨filled, within⟩, ends, rfl, rfl⟩
    refine ⟨run, asciiText rest, ?_, ⟨filled, within⟩, ?_, rfl, rfl⟩
    · rw [asciiText_plain _ _ plain.1,
        asciiText_plain _ _ (fun character here => plain.2 _ (within character here))]
    · intro character first
      rcases asciiText_head rest character first with rfl | ⟨head, -⟩
      · cases member : inClass '\\' with
        | false => rfl
        | true => exact absurd rfl (not_backslash (plain.2 _ member))
      · exact ends character head

/-- What JSON writes for a character other than a tab has no t and no s, or is the character. -/
theorem escape_unopened (character first : Char) (letter : first ∈ ['t', 's'])
    (other : asciiEscaped character ≠ [character]) (tab : character ≠ '\t') :
    first ∉ asciiEscaped character := by
  have written := asciiEscaped_escaped character
  generalize escape : asciiEscaped character = text at other written
  cases written with
  | plain => exact absurd rfl other
  | letter mark listed named =>
    have marks : ∀ mark ∈ "\"\\nrtfb".toList, mark ≠ 's' := by decide
    simp only [List.mem_cons, List.not_mem_nil, or_false] at letter ⊢
    rintro (rfl | rfl)
    · exact absurd letter (by decide)
    · rcases letter with rfl | rfl
      · exact tab (named rfl)
      · exact marks _ listed rfl
  | code digits listed =>
    have marks : ∀ first ∈ ['t', 's'], first ∉ '\\' :: "\\u0123456789abcdef".toList := by decide
    intro member
    refine marks first letter ?_
    rcases List.mem_cons.mp member with rfl | later
    · exact List.mem_cons_self
    · exact List.mem_cons_of_mem _ (listed first later)

/-- A literal and a run match where a character is written as it is what they match there in the
text. -/
theorem asWritten_plain (plain : Plain opening inClass) (character : Char) (rest : List Char)
    (written : asciiEscaped character = [character]) :
    asWritten (replacing replacement (literalThen opening inClass)) (character :: rest) =
      (replacing replacement (literalThen opening inClass)).pattern (character :: rest) := by
  have same := replacing_asciiText replacement plain (character :: rest)
  rw [asciiText_cons, written] at same
  have whole : character :: [] ++ asciiText rest = [character] ++ asciiText rest := rfl
  rw [asWritten, written, matchWithin, whole, same]
  cases (replacing replacement (literalThen opening inClass)).pattern (character :: rest) with
  | none => rfl
  | some found => rfl

/-- Where a literal and a run match what JSON writes for a text as they match the text, what is
written is rewritten as the text is. Otherwise it is broken: a match starts with the t of a tab. -/
theorem replacing_written (plain : Plain opening inClass) (first : Char) (others : List Char)
    (starts : opening.toList = first :: others) (letter : first ∈ ['t', 's'])
    (marker : ∃ others, replacement.toList = '[' :: others)
    (plain_marker : ∀ character ∈ replacement.toList, asciiEscaped character = [character])
    (rule : Rule Char) (same : rule = replacing replacement (literalThen opening inClass))
    (text : List Char) :
    (rule.agrees (asWritten rule) 0 text = true ∧
      rule.apply (asciiText text) = asciiText (rule.apply text)) ∨
    (¬ rule.agrees (asWritten rule) 0 text = true ∧ Broken (rule.apply (asciiText text))) := by
  subst same
  have bounded : (replacing replacement (literalThen opening inClass)).Bounded :=
    replacing_bounded (by simp [starts])
  have first_plain : asciiEscaped first = [first] := plain.1 first (by simp [starts])
  induction size : text.length using Nat.strong_induction_on generalizing text with
  | _ size inductionHypothesis =>
    cases text with
    | nil => exact .inl ⟨rfl, rfl⟩
    | cons character rest =>
      have later (length : Nat) (some : 0 < length) := inductionHypothesis
        ((character :: rest).drop length).length (by rw [← size, List.length_drop, List.length_cons]; omega)
        ((character :: rest).drop length) rfl
      have whole := asciiText_cons character rest
      cases matched : (replacing replacement (literalThen opening inClass)).pattern
          (character :: rest) with
      | none =>
        cases found : asWritten (replacing replacement (literalThen opening inClass))
            (character :: rest) with
        | none =>
          have kept := Rule.apply_front (asciiEscaped character) (asciiText rest)
            ((matchWithin_eq_none_iff _ _ _).mp found)
          rw [Rule.agrees_unmatched _ _ matched, whole, kept, Rule.apply_unmatched _ _ matched]
          rcases later 1 Nat.one_pos with ⟨agree, same⟩ | ⟨differ, broken⟩
          · exact .inl ⟨⟨found, agree⟩, congrArg (asciiEscaped character ++ ·) same⟩
          · refine .inr ⟨fun agree => differ agree.2, ?_⟩
            have behind := broken.behind [character]
            rwa [asciiText, List.flatMap_singleton] at behind
        | some span =>
          refine .inr ⟨?_, ?_⟩
          · rw [Rule.agrees_unmatched _ _ matched, found]
            exact fun agree => by cases agree.1
          · obtain ⟨front, head, tail, kept, length, escape, inside, -, -, applied⟩ :=
              matchWithin_eq_some _ _ _ span.1 span.2 found
            have same_letter : first = head := by
              by_contra other
              rw [List.cons_append, replacing_unopened first others starts head other] at inside
              cases inside
            subst same_letter
            have escaped : asciiEscaped character ≠ [character] := by
              intro written
              rw [asWritten_plain plain character rest written, matched] at found
              cases found
            have tab : character = '\t' := by
              by_contra other
              exact escape_unopened character first letter escaped other (by simp [escape])
            subst tab
            obtain ⟨rest_marker, marker⟩ := marker
            obtain ⟨run, after, -, -, -, rfl, -⟩ := (replacing_eq_some_iff _ _ _).mp inside
            have backslash : front = ['\\'] := by
              cases front with
              | nil =>
                have slash : '\\' = first := (List.cons.inj escape).1
                subst slash
                exact absurd letter (by decide)
              | cons slash front =>
                obtain ⟨rfl, more⟩ := List.cons.inj escape
                cases front with
                | nil => rfl
                | cons other front => simp at more
            rw [whole, applied, backslash, Rule.apply_matched bounded _ _ _ inside, List.take_zero]
            have marked : (replacing replacement (literalThen opening inClass)).marker =
                '[' :: rest_marker := marker
            rw [marked]
            exact ⟨[], _, rfl⟩
      | some span =>
        obtain ⟨kept, length⟩ := span
        obtain ⟨run, after, text, ⟨filled, within⟩, -, rfl, total⟩ :=
          (replacing_eq_some_iff _ _ _).mp matched
        have written := replacing_asciiText replacement plain (character :: rest)
        have plain_front : ∀ character ∈ opening.toList ++ run,
            asciiEscaped character = [character] :=
          List.forall_mem_append.mpr ⟨plain.1, fun character here => plain.2 _ (within _ here)⟩
        have counted : length = (opening.toList ++ run).length := by rw [total, List.length_append]
        have left : (character :: rest).drop length = after := by
          rw [text, ← List.append_assoc, counted, List.drop_left]
        have written_left : (asciiText (character :: rest)).drop length = asciiText after := by
          rw [text, ← List.append_assoc, asciiText_plain _ _ plain_front, counted, List.drop_left]
        have head_plain : asciiEscaped character = [character] := by
          rw [starts] at text
          rw [(List.cons.inj text).1, first_plain]
        have positive : 0 < length := (bounded _ _ _ matched).1
        have marked : asciiText replacement.toList = replacement.toList :=
          asciiText_self _ plain_marker
        rw [Rule.agrees_matched bounded _ _ _ matched, left,
          asWritten_plain plain character rest head_plain,
          Rule.apply_matched bounded _ _ _ matched, left,
          Rule.apply_matched bounded _ _ _ (written.trans matched), written_left,
          List.take_zero, List.take_zero, List.nil_append]
        have following := later length positive
        rw [left] at following
        rcases following with ⟨agree, same⟩ | ⟨differ, broken⟩
        · refine .inl ⟨⟨matched, agree⟩, ?_⟩
          rw [same]
          exact (asciiText_plain _ _ plain_marker).symm
        · refine .inr ⟨fun agree => differ agree.2, ?_⟩
          have behind := broken.behind replacement.toList
          rwa [marked] at behind

end Literals

/-! ## Bearer credentials -/

/-- The word bearer takes no more of an escape than its last three digits. -/
theorem word_in_escape (character head : Char) (front tail letters : List Char)
    (escape : asciiEscaped character = front ++ head :: tail) (others : List Char)
    (word : (head :: tail ++ others).take 6 = letters)
    (spelled : letters.flatMap lowerCharacter = "bearer".toList) : tail.length ≤ 2 := by
  by_contra long
  obtain ⟨second, third, fourth, more, rfl⟩ : ∃ second third fourth more,
      tail = second :: third :: fourth :: more := by
    match tail, long with
    | second :: third :: fourth :: more, _ => exact ⟨second, third, fourth, more, rfl⟩
    | [], long | [_], long | [_, _], long => exact absurd (by simp) long
  have written := asciiEscaped_escaped character
  rw [escape] at written
  generalize whole : front ++ head :: second :: third :: fourth :: more = text at written
  have size := congrArg List.length whole
  simp only [List.length_append, List.length_cons] at size
  cases written with
  | plain =>
    rw [List.length_singleton] at size
    omega
  | letter =>
    simp only [List.length_cons, List.length_nil] at size
    omega
  | code digits listed =>
    subst word
    simp only [List.cons_append, List.take_succ_cons] at spelled
    have letter := word_letters _ spelled
    -- Digits that are letters of the word are small, and the fourth letter of the word is none.
    have small : ∀ digit ∈ "\\u0123456789abcdef".toList, digit ∈ "bearBEAR".toList →
        lowerCharacter digit = [digit] ∧ digit ≠ 'r' := by decide
    have inside : ∀ digit ∈ head :: second :: third :: fourth :: more,
        digit ∈ "\\u0123456789abcdef".toList := by
      intro digit member
      have present : digit ∈ '\\' :: digits := whole ▸ List.mem_append_right _ member
      rcases List.mem_cons.mp present with rfl | later
      · decide
      · exact listed digit later
    have first := small head (inside head (by simp)) (letter head (by simp))
    have next := small second (inside second (by simp)) (letter second (by simp))
    have after := small third (inside third (by simp)) (letter third (by simp))
    have last := small fourth (inside fourth (by simp)) (letter fourth (by simp))
    rw [List.flatMap_cons, List.flatMap_cons, List.flatMap_cons, List.flatMap_cons, first.1, next.1,
      after.1, last.1] at spelled
    simp only [List.cons_append, List.nil_append] at spelled
    have fourth_letter := congrArg (fun letters => letters[3]?) spelled
    simp only [List.getElem?_cons_succ, List.getElem?_cons_zero] at fourth_letter
    exact last.2 (Option.some.inj fourth_letter)

/-- The letters of the word bearer behind the first one. -/
theorem word_tail_letters (head : Char) (letters : List Char)
    (spelled : (head :: letters).flatMap lowerCharacter = "bearer".toList) :
    ∀ letter ∈ letters, letter ∈ "earEAR".toList := by
  intro letter member
  have listed := word_letters _ spelled letter (List.mem_cons_of_mem head member)
  obtain ⟨first, others, lowered⟩ := List.exists_cons_of_ne_nil (lowerCharacter_ne_nil head)
  rw [List.flatMap_cons, lowered] at spelled
  have behind : others ++ letters.flatMap lowerCharacter = "earer".toList :=
    (List.cons.inj spelled).2
  have inside : ∀ lower ∈ lowerCharacter letter, lower ∈ "earer".toList := by
    intro lower member_lower
    rw [← behind]
    exact List.mem_append_right _ (List.mem_flatMap.mpr ⟨letter, member, member_lower⟩)
  have each : ∀ letter ∈ "bearBEAR".toList, (∀ lower ∈ lowerCharacter letter,
      lower ∈ "earer".toList) → letter ∈ "earEAR".toList := by decide
  exact each letter listed inside

/-- What a bearer credential is in what JSON writes for a text: some letters behind the first
character, blanks and a run, all of which are written as they are. The run ends where a character
is not of the class or not written as it is. -/
structure WrittenBearer (rest : List Char) (kept length : Nat) (letters blanks run after : List Char) :
    Prop where
  parts : rest = letters ++ (blanks ++ (run ++ after))
  plain : ∀ character ∈ letters ++ (blanks ++ run), asciiEscaped character = [character]
  spelled : 3 ≤ letters.length ∧ ∀ character ∈ letters, character ∈ "earEAR".toList
  hidden : blanks ≠ [] ∧ ∀ character ∈ blanks, blank character = true
  visible : run ≠ [] ∧ ∀ character ∈ run, credentialCharacter character = true
  ends : ∀ character ∈ after.head?, asciiEscaped character = [character] →
    credentialCharacter character = false
  kept_eq : kept = 1 + letters.length + blanks.length
  length_eq : length = kept + run.length

namespace WrittenBearer

variable {rest letters blanks run after : List Char} {kept length : Nat}

/-- What is kept of a bearer credential. -/
theorem take (here : WrittenBearer rest kept length letters blanks run after) (character : Char) :
    (character :: rest).take kept = character :: (letters ++ blanks) := by
  have long : kept = (character :: (letters ++ blanks)).length := by
    rw [here.kept_eq, List.length_cons, List.length_append]
    omega
  have whole : character :: rest = character :: (letters ++ blanks) ++ (run ++ after) := by
    rw [here.parts]
    simp only [List.append_assoc, List.cons_append]
  rw [long, whole, List.take_left]

/-- A bearer credential is as long as what it takes, and what follows it stands behind that. -/
theorem parted (here : WrittenBearer rest kept length letters blanks run after) (character : Char) :
    character :: rest = character :: (letters ++ (blanks ++ run)) ++ after ∧
      length = (character :: (letters ++ (blanks ++ run))).length := by
  rw [here.length_eq, here.kept_eq, here.parts]
  simp only [List.append_assoc, List.cons_append, List.length_cons, List.length_append, true_and]
  omega

/-- What a bearer credential takes. -/
theorem taken (here : WrittenBearer rest kept length letters blanks run after) (character : Char) :
    (character :: rest).take length = character :: (letters ++ (blanks ++ run)) := by
  rw [(here.parted character).1, (here.parted character).2, List.take_left]

/-- What follows a bearer credential. -/
theorem drop (here : WrittenBearer rest kept length letters blanks run after) (character : Char) :
    (character :: rest).drop length = after := by
  rw [(here.parted character).1, (here.parted character).2, List.drop_left]

end WrittenBearer

/-- No letter of a bearer credential, blank or character of its run is a backslash. -/
theorem bearer_unescaped (letters blanks run : List Char)
    (spelled : ∀ character ∈ letters, character ∈ "earEAR".toList)
    (hidden : ∀ character ∈ blanks, blank character = true)
    (visible : ∀ character ∈ run, credentialCharacter character = true) :
    '\\' ∉ letters ++ (blanks ++ run) := by
  intro listed
  rcases List.mem_append.mp listed with letter | listed
  · exact absurd (spelled _ letter) (by decide)
  · rcases List.mem_append.mp listed with space | member
    · exact absurd (hidden _ space) (by decide)
    · exact absurd (visible _ member) (by decide)

/-- A bearer credential that JSON writes, and how it is rewritten. -/
theorem asWritten_bearer (character : Char) (rest : List Char) (kept length : Nat)
    (matched : asWritten bearerRule (character :: rest) = some (kept, length)) :
    ∃ letters blanks run after, WrittenBearer rest kept length letters blanks run after ∧
      (∃ ending, ending <:+ asciiEscaped character ∧ ending ≠ [] ∧
        (ending ++ letters).flatMap lowerCharacter = "bearer".toList) ∧
      bearerRule.apply (asciiText (character :: rest)) =
        asciiText (character :: (letters ++ blanks)) ++ redactedSecret.toList ++
          bearerRule.apply (asciiText after) := by
  obtain ⟨front, head, tail, found, total, escape, inside, rfl, rfl, applied⟩ :=
    matchWithin_eq_some _ _ _ _ _ matched
  obtain ⟨word, blanks, run, after, whole, spelled, hidden, visible, ends, rfl, rfl⟩ :=
    (bearerRule_eq_some_iff _ _ _).mp inside
  have six : word.length = 6 := lowered_length word _ (by decide) spelled
  have short := word_in_escape character head front tail word escape (asciiText rest)
    (by rw [whole, List.take_left' six]) spelled
  obtain ⟨letters, rfl⟩ : ∃ letters, word = head :: tail ++ letters := by
    refine ⟨word.drop (tail.length + 1), ?_⟩
    have taken := congrArg (List.take (tail.length + 1)) whole
    rw [List.take_left' (by simp), List.take_append_of_le_length (by omega)] at taken
    rw [taken, List.take_append_drop]
  rw [List.append_assoc] at whole
  have starts : asciiText rest = letters ++ (blanks ++ run) ++ after := by
    rw [List.append_cancel_left whole]
    simp only [List.append_assoc]
  have letters_only : ∀ character ∈ letters, character ∈ "earEAR".toList :=
    fun character member =>
      word_tail_letters head (tail ++ letters) spelled character (List.mem_append_right _ member)
  obtain ⟨later, rfl, rfl, plain⟩ := asciiText_front (letters ++ (blanks ++ run)) rest after
    (bearer_unescaped letters blanks run letters_only hidden.2 visible.2) starts
  have counted : tail.length + 1 + letters.length = 6 := by
    rw [← six, List.length_append, List.length_cons]
  refine ⟨letters, blanks, run, later, ⟨by simp only [List.append_assoc], plain,
    ⟨by omega, letters_only⟩, hidden, visible, ?_, by omega, by omega⟩,
    ⟨head :: tail, escape ▸ List.suffix_append _ _, List.cons_ne_nil _ _, spelled⟩, ?_⟩
  · intro next first written
    obtain ⟨others, rfl⟩ : ∃ others, later = next :: others := by
      cases later with
      | nil => cases first
      | cons other others => exact ⟨others, by rw [Option.some.inj first]⟩
    have head_written : (asciiText (next :: others)).head? = some next := by
      rw [asciiText_cons, written]
      rfl
    exact ends next head_written
  · have kept_part : asciiText (character :: (letters ++ blanks)) =
        front ++ (head :: tail ++ (letters ++ blanks)) := by
      rw [asciiText_cons, escape, asciiText_self (letters ++ blanks), List.append_assoc]
      intro character member
      refine plain character ?_
      rcases List.mem_append.mp member with here | here <;> simp [here]
    have split_text : head :: tail ++ asciiText (letters ++ (blanks ++ run) ++ later) =
        (head :: tail ++ (letters ++ blanks)) ++ (run ++ asciiText later) := by
      rw [starts]
      simp only [List.append_assoc]
    have long : (head :: tail ++ (letters ++ blanks)).length = 6 + blanks.length := by
      simp only [List.length_append, List.length_cons]
      omega
    have full : (head :: tail ++ (letters ++ blanks) ++ run).length =
        6 + blanks.length + run.length := by
      rw [List.length_append, long]
    rw [asciiText_cons, applied, Rule.apply_matched bearerRule_bounded _ _ _ inside, kept_part, split_text,
      List.take_left' long, ← List.append_assoc (head :: tail ++ (letters ++ blanks)),
      List.drop_left' full]
    simp only [List.append_assoc]
    rfl

/-- The rule that rewrites a text where another one finds a match in what JSON writes for it. -/
def writtenRule (rule : Rule Char) : Rule Char := ⟨rule.marker, asWritten rule⟩

/-- A bearer credential that JSON writes takes what it matches, and keeps five characters. -/
theorem writtenBearer_bounded (text : List Char) (kept length : Nat)
    (matched : (writtenRule bearerRule).pattern text = some (kept, length)) :
    5 ≤ kept ∧ kept < length ∧ length ≤ text.length := by
  cases text with
  | nil => cases matched
  | cons character rest =>
    obtain ⟨letters, blanks, run, after, here, -, -⟩ := asWritten_bearer character rest _ _ matched
    have spaces := List.length_pos_iff.mpr here.hidden.1
    have some := List.length_pos_iff.mpr here.visible.1
    have size := congrArg List.length here.parts
    have letters_size := here.spelled.1
    have kept_size := here.kept_eq
    have length_size := here.length_eq
    simp only [List.length_append, List.length_cons] at size ⊢
    omega

/-- Bearer credentials are rewritten in what JSON writes for a text as in the text, where they
stand in what is written. -/
theorem bearerRule_written (text : List Char) :
    bearerRule.apply (asciiText text) = asciiText ((writtenRule bearerRule).apply text) := by
  have bounded : (writtenRule bearerRule).Bounded := fun text kept length matched =>
    (writtenBearer_bounded text kept length matched).2
  induction size : text.length using Nat.strong_induction_on generalizing text with
  | _ size inductionHypothesis =>
    cases text with
    | nil => rfl
    | cons character rest =>
      cases matched : asWritten bearerRule (character :: rest) with
      | none =>
        have found : (writtenRule bearerRule).pattern (character :: rest) = none := matched
        have kept := Rule.apply_front (asciiEscaped character) (asciiText rest)
          ((matchWithin_eq_none_iff _ _ _).mp matched)
        rw [asciiText_cons, kept, inductionHypothesis rest.length (by rw [← size]; simp) rest rfl,
          Rule.apply_unmatched _ _ found, asciiText_cons]
      | some found =>
        obtain ⟨kept, length⟩ := found
        obtain ⟨letters, blanks, run, after, here, -, applied⟩ :=
          asWritten_bearer character rest kept length matched
        have found : (writtenRule bearerRule).pattern (character :: rest) = some (kept, length) :=
          matched
        have marked : asciiText redactedSecret.toList = redactedSecret.toList :=
          asciiText_self _ (by decide)
        have shorter : after.length < (character :: rest).length := by
          have takes := bounded _ _ _ found
          rw [← here.drop character, List.length_drop]
          omega
        have append (front more : List Char) :
            asciiText (front ++ more) = asciiText front ++ asciiText more := List.flatMap_append
        rw [applied, Rule.apply_matched bounded _ _ _ found, here.take, here.drop, append, append,
          inductionHypothesis after.length (size ▸ shorter) after rfl]
        exact congrArg (_ ++ · ++ _) marked.symm

/-! ## Bearer credentials found alike -/

/-- The first character of the run of a bearer credential is no bracket. -/
theorem credential_bracket (character : Char) (member : credentialCharacter character = true) :
    character ≠ '[' := by
  rintro rfl
  exact absurd member (by decide)

/-- Where a bearer credential keeps something, the rewritten text starts as the text. -/
theorem bearerRule_head (character : Char) (rest : List Char) :
    ∃ more, bearerRule.apply (character :: rest) = character :: more := by
  have started := Rule.apply_take bearerRule_bounded 1 (fun text kept length matched => by
    obtain ⟨word, blanks, run, after, -, -, -, -, -, rfl, -⟩ :=
      (bearerRule_eq_some_iff _ _ _).mp matched
    omega) (character :: rest)
  cases rewritten : bearerRule.apply (character :: rest) with
  | nil =>
    rw [rewritten] at started
    cases started
  | cons other more =>
    rw [rewritten] at started
    exact ⟨more, by rw [(List.cons.inj started).1]⟩

/-- Where a bearer credential that JSON writes is rewritten, the first two characters stay. -/
theorem writtenBearer_start (first second : Char) (rest : List Char) :
    ∃ more, (writtenRule bearerRule).apply (first :: second :: rest) = first :: second :: more := by
  have started := Rule.apply_take
    (fun text kept length matched => (writtenBearer_bounded text kept length matched).2) 2
    (fun text kept length matched => by
      have five := (writtenBearer_bounded text kept length matched).1
      omega) (first :: second :: rest)
  cases rewritten : (writtenRule bearerRule).apply (first :: second :: rest) with
  | nil =>
    rw [rewritten] at started
    cases started
  | cons one others =>
    rw [rewritten] at started
    cases others with
    | nil => simp at started
    | cons two more =>
      simp only [List.take_succ_cons, List.take_zero, List.cons.injEq, and_true] at started
      exact ⟨more, by rw [started.1, started.2]⟩

/-- No bearer credential starts behind the first character of one before its run. -/
theorem lead_unopened (letters blanks : List Char)
    (spelled : ∀ character ∈ letters, character ∈ "earEAR".toList)
    (hidden : ∀ character ∈ blanks, blank character = true) (character : Char)
    (member : character ∈ letters ++ blanks) (more : List Char) :
    bearerRule.pattern (character :: more) = none := by
  have other : character ≠ 'b' ∧ character ≠ 'B' := by
    rcases List.mem_append.mp member with letter | space
    · have each : ∀ letter ∈ "earEAR".toList, letter ≠ 'b' ∧ letter ≠ 'B' := by decide
      exact each character (spelled character letter)
    · constructor <;> (rintro rfl; exact absurd (hidden _ space) (by decide))
  exact bearerRule_unopened character other.1 other.2 more

/-- A bearer credential that only JSON writes makes the rewritten texts differ. -/
theorem differ_written (character : Char) (rest : List Char) (kept length : Nat)
    (matched : asWritten bearerRule (character :: rest) = some (kept, length))
    (absent : bearerRule.pattern (character :: rest) = none) :
    (writtenRule bearerRule).apply (character :: rest) ≠ bearerRule.apply (character :: rest) := by
  have bounded : (writtenRule bearerRule).Bounded := fun text kept length matched =>
    (writtenBearer_bounded text kept length matched).2
  have found : (writtenRule bearerRule).pattern (character :: rest) = some (kept, length) := matched
  obtain ⟨letters, blanks, run, after, here, -, -⟩ :=
    asWritten_bearer character rest kept length matched
  obtain ⟨first, others, rfl⟩ := List.exists_cons_of_ne_nil here.visible.1
  have whole : character :: rest = character :: (letters ++ blanks) ++ (first :: (others ++ after)) := by
    rw [here.parts]
    simp only [List.append_assoc, List.cons_append]
  have kept_front : bearerRule.apply (character :: rest) =
      character :: (letters ++ blanks) ++ bearerRule.apply (first :: (others ++ after)) := by
    rw [whole]
    apply Rule.apply_front
    intro tail within some
    rcases List.suffix_cons_iff.mp within with rfl | within
    · rw [← whole, absent]
    · obtain ⟨head, tail, rfl⟩ := List.exists_cons_of_ne_nil some
      exact lead_unopened letters blanks here.spelled.2 here.hidden.2 head
        (within.subset List.mem_cons_self) _
  obtain ⟨more, started⟩ := bearerRule_head first (others ++ after)
  intro same
  rw [Rule.apply_matched bounded _ _ _ found, here.take, kept_front, started, List.append_assoc]
    at same
  have heads := List.append_cancel_left same
  exact credential_bracket first (here.visible.2 first List.mem_cons_self) (List.cons.inj heads).1.symm

/-- No bearer credential is written at a letter of the word behind the first one. -/
theorem letter_unwritten (letter : Char) (listed : letter ∈ "earEAR".toList) (rest : List Char) :
    asWritten bearerRule (letter :: rest) = none := by
  have plain : ∀ letter ∈ "earEAR".toList, asciiEscaped letter = [letter] := by decide
  have unmatched := lead_unopened [letter] [] (List.forall_mem_singleton.mpr listed)
    (fun _ none => absurd none List.not_mem_nil) letter (by simp) (asciiText rest)
  rw [asWritten, plain letter listed, matchWithin, List.cons_append, List.nil_append, unmatched]
  rfl

/-- No bearer credential is written at a character in front of a blank. -/
theorem before_blank_unwritten (character space : Char) (empty : blank space = true)
    (rest : List Char) : asWritten bearerRule (character :: space :: rest) = none := by
  cases matched : asWritten bearerRule (character :: space :: rest) with
  | none => rfl
  | some found =>
    obtain ⟨letters, blanks, run, after, here, -, -⟩ := asWritten_bearer _ _ found.1 found.2 matched
    obtain ⟨first, others, rfl⟩ : ∃ first others, letters = first :: others := by
      cases letters with
      | nil => exact absurd here.spelled.1 (by decide)
      | cons first others => exact ⟨first, others, rfl⟩
    obtain ⟨rfl, -⟩ := List.cons.inj here.parts
    have each : ∀ letter ∈ "earEAR".toList, blank letter = false := by decide
    rw [each space (here.spelled.2 space List.mem_cons_self)] at empty
    cases empty

/-- No bearer credential is written in the letters of the word behind the first one, or in the
blanks in front of the last one. -/
theorem lead_unwritten (letters blanks : List Char)
    (spelled : ∀ character ∈ letters, character ∈ "earEAR".toList)
    (hidden : ∀ character ∈ blanks, blank character = true) (space : Char)
    (empty : blank space = true) (more tail : List Char) (within : tail <:+ letters ++ blanks)
    (some : tail ≠ []) : asWritten bearerRule (tail ++ space :: more) = none := by
  obtain ⟨head, tail, rfl⟩ := List.exists_cons_of_ne_nil some
  obtain ⟨before, whole⟩ := within
  have apart : head ∈ letters ∨ head :: tail <:+ blanks := by
    rcases List.append_eq_append_iff.mp whole with ⟨front, rfl, same⟩ | ⟨front, -, rfl⟩
    · cases front with
      | nil => exact .inr ⟨[], by simpa using same⟩
      | cons letter front =>
        obtain ⟨rfl, -⟩ := List.cons.inj same
        exact .inl (by simp)
    · exact .inr (List.suffix_append _ _)
  rcases apart with letter | within
  · exact letter_unwritten head (spelled head letter) _
  · cases tail with
    | nil => exact before_blank_unwritten head space empty more
    | cons next tail =>
      exact before_blank_unwritten head next (hidden next (within.subset (by simp))) _

/-- A bearer credential that JSON does not write makes the rewritten texts differ. -/
theorem differ_unwritten (character : Char) (rest : List Char) (kept length : Nat)
    (absent : asWritten bearerRule (character :: rest) = none)
    (matched : bearerRule.pattern (character :: rest) = some (kept, length)) :
    (writtenRule bearerRule).apply (character :: rest) ≠ bearerRule.apply (character :: rest) := by
  obtain ⟨word, blanks, run, after, whole, spelled, ⟨some, hidden⟩, ⟨more, visible⟩, -, rfl, rfl⟩ :=
    (bearerRule_eq_some_iff _ _ _).mp matched
  have six : word.length = 6 := lowered_length word _ (by decide) spelled
  obtain ⟨first, others, rfl⟩ := List.exists_cons_of_ne_nil more
  obtain ⟨spaces, space, rfl⟩ : ∃ spaces space, blanks = spaces ++ [space] :=
    ⟨_, _, (List.dropLast_append_getLast some).symm⟩
  obtain ⟨head, letters, rfl⟩ : ∃ head letters, word = head :: letters := by
    cases word with
    | nil => cases six
    | cons head letters => exact ⟨head, letters, rfl⟩
  have parted : character :: rest =
      head :: (letters ++ spaces) ++ (space :: first :: (others ++ after)) := by
    rw [whole]
    simp only [List.append_assoc, List.cons_append, List.nil_append]
  have front : (character :: rest).take (6 + (spaces ++ [space]).length) =
      head :: (letters ++ spaces) ++ [space] := by
    have long : 6 + (spaces ++ [space]).length = (head :: (letters ++ spaces) ++ [space]).length := by
      rw [← six]
      simp only [List.length_append, List.length_cons]
      omega
    have again : character :: rest =
        head :: (letters ++ spaces) ++ [space] ++ (first :: (others ++ after)) := by
      rw [parted]
      simp only [List.append_assoc, List.cons_append, List.nil_append]
    rw [long, again, List.take_left]
  have kept_front : (writtenRule bearerRule).apply (character :: rest) =
      head :: (letters ++ spaces) ++
        (writtenRule bearerRule).apply (space :: first :: (others ++ after)) := by
    rw [parted]
    apply Rule.apply_front
    intro tail within filled
    rcases List.suffix_cons_iff.mp within with rfl | within
    · rw [← parted]
      exact absent
    · exact lead_unwritten letters spaces (word_tail_letters head letters spelled)
        (fun character member => hidden character (List.mem_append_left _ member)) space
        (hidden space (by simp)) _ tail within filled
  obtain ⟨later, started⟩ := writtenBearer_start space first (others ++ after)
  intro same
  rw [Rule.apply_matched bearerRule_bounded _ _ _ matched, front, kept_front, started] at same
  have split : head :: (letters ++ spaces) ++ [space] ++ first :: later =
      head :: (letters ++ spaces) ++ space :: first :: later := by simp
  rw [← split, List.append_assoc (head :: (letters ++ spaces) ++ [space])] at same
  have heads := List.append_cancel_left same
  exact credential_bracket first (visible first List.mem_cons_self) (List.cons.inj heads).1

/-- Where a character is written as it is, a bearer credential that JSON writes starts with it. -/
theorem whole_word (character : Char) (letters : List Char)
    (written : asciiEscaped character = [character])
    (spelled : ∃ ending, ending <:+ asciiEscaped character ∧ ending ≠ [] ∧
      (ending ++ letters).flatMap lowerCharacter = "bearer".toList) :
    (character :: letters).flatMap lowerCharacter = "bearer".toList := by
  obtain ⟨ending, within, some, spelled⟩ := spelled
  rw [written] at within
  rcases List.suffix_cons_iff.mp within with rfl | within
  · exact spelled
  · exact absurd (List.suffix_nil.mp within) some

/-- A bearer credential and the one that JSON writes at the same character have the same letters and
blanks, and the written run is the whole run, or ends before a character of the class. -/
theorem runs_agree (character : Char) (rest letters blanks run after : List Char)
    (kept length total start : Nat)
    (here : WrittenBearer rest kept length letters blanks run after)
    (spelled : ∃ ending, ending <:+ asciiEscaped character ∧ ending ≠ [] ∧
      (ending ++ letters).flatMap lowerCharacter = "bearer".toList)
    (matched : bearerRule.pattern (character :: rest) = some (start, total)) :
    start = kept ∧ (total = length ∨ ∃ next more, after = next :: more ∧
      credentialCharacter next = true ∧
      ∀ other ∈ ((character :: rest).drop total).head?, credentialCharacter other = false) := by
  obtain ⟨word, spaces, longer, left, whole, word_spelled, ⟨some, hidden⟩, ⟨more, visible⟩, ends,
    rfl, rfl⟩ := (bearerRule_eq_some_iff _ _ _).mp matched
  have six : word.length = 6 := lowered_length word _ (by decide) word_spelled
  have plain : asciiEscaped character = [character] := by
    have each : ∀ letter ∈ "bearBEAR".toList, asciiEscaped letter = [letter] := by decide
    refine each character (word_letters word word_spelled character ?_)
    cases word with
    | nil => cases six
    | cons head tail => exact (List.cons.inj whole).1 ▸ List.mem_cons_self
  have seven := lowered_length _ _ (by decide) (whole_word character letters plain spelled)
  have split := whole
  rw [here.parts, ← List.cons_append] at split
  obtain ⟨rfl, behind⟩ := List.append_inj split (by rw [six, seven]; rfl)
  have seen (run after : List Char) (some : run ≠ [])
      (visible : ∀ character ∈ run, credentialCharacter character = true) :
      ∀ character ∈ (run ++ after).head?, blank character = false := by
    obtain ⟨first, others, rfl⟩ := List.exists_cons_of_ne_nil some
    rintro character ⟨rfl⟩
    exact credentialCharacter_visible _ (visible _ List.mem_cons_self)
  obtain ⟨gap, runs⟩ := takeWhile_run blank blanks (run ++ after) here.hidden.2
    (seen run after here.visible.1 here.visible.2)
  obtain ⟨other_gap, other_runs⟩ := takeWhile_run blank spaces (longer ++ left) hidden
    (seen longer left more visible)
  rw [behind] at gap runs
  obtain rfl := other_gap.symm.trans gap
  have same_runs := other_runs.symm.trans runs
  have counted : letters.length = 5 := by simpa using six
  refine ⟨by rw [here.kept_eq, counted], ?_⟩
  have full : (character :: rest).drop (6 + spaces.length + longer.length) = left := by
    have long : 6 + spaces.length + longer.length =
        ((character :: letters) ++ (spaces ++ longer)).length := by
      rw [List.length_append, List.length_append, six]
      omega
    have again : character :: rest = (character :: letters) ++ (spaces ++ longer) ++ left := by
      rw [whole]
      simp only [List.append_assoc]
    rw [again, long, List.drop_left]
  rw [full, here.length_eq, here.kept_eq, counted]
  rcases List.append_eq_append_iff.mp same_runs with ⟨more_run, rfl, rfl⟩ | ⟨more_run, rfl, rfl⟩
  · cases more_run with
    | nil => exact .inl (by simp)
    | cons next more_run =>
      exact absurd (here.visible.2 next (by simp)) (by simp [ends next rfl])
  · cases more_run with
    | nil => exact .inl (by simp)
    | cons next more_run => exact .inr ⟨next, _, rfl, visible next (by simp), ends⟩

/-- A bearer credential of another length in what JSON writes makes the rewritten texts differ. -/
theorem differ_lengths (character : Char) (rest : List Char) (kept length start total : Nat)
    (there : asWritten bearerRule (character :: rest) = some (kept, length))
    (matched : bearerRule.pattern (character :: rest) = some (start, total))
    (differ : (kept, length) ≠ (start, total)) :
    (writtenRule bearerRule).apply (character :: rest) ≠ bearerRule.apply (character :: rest) := by
  have bounded : (writtenRule bearerRule).Bounded := fun text kept length matched =>
    (writtenBearer_bounded text kept length matched).2
  have found : (writtenRule bearerRule).pattern (character :: rest) = some (kept, length) := there
  obtain ⟨letters, blanks, run, after, here, spelled, -⟩ :=
    asWritten_bearer character rest kept length there
  obtain ⟨rfl, rfl | ⟨next, more, rfl, member, ends⟩⟩ :=
    runs_agree character rest letters blanks run after kept length total start here spelled matched
  · exact absurd rfl differ
  · have starts : ∃ later, (writtenRule bearerRule).apply (next :: more) = next :: later := by
      have started := Rule.apply_take bounded 1 (fun text kept length matched => by
        have five := (writtenBearer_bounded text kept length matched).1
        omega) (next :: more)
      cases rewritten : (writtenRule bearerRule).apply (next :: more) with
      | nil =>
        rw [rewritten] at started
        cases started
      | cons other later =>
        rw [rewritten] at started
        exact ⟨later, by rw [(List.cons.inj started).1]⟩
    obtain ⟨later, started⟩ := starts
    intro same
    have marker : (writtenRule bearerRule).marker = bearerRule.marker := rfl
    rw [Rule.apply_matched bounded _ _ _ found, Rule.apply_matched bearerRule_bounded _ _ _ matched,
      here.drop, started, marker] at same
    have left := List.append_cancel_left same
    cases behind : (character :: rest).drop total with
    | nil =>
      rw [behind, Rule.apply_nil] at left
      cases left
    | cons other others =>
      obtain ⟨left_more, left_starts⟩ := bearerRule_head other others
      rw [behind, left_starts] at left
      obtain rfl := (List.cons.inj left).1
      rw [ends next (by rw [behind]; rfl)] at member
      cases member

/-- The texts rewritten where JSON writes bearer credentials and where they stand are one exactly if
each is found alike. -/
theorem bearerRule_alike_iff (text : List Char) :
    (writtenRule bearerRule).apply text = bearerRule.apply text ↔
      bearerRule.agrees (asWritten bearerRule) 0 text = true := by
  have bounded : (writtenRule bearerRule).Bounded := fun text kept length matched =>
    (writtenBearer_bounded text kept length matched).2
  induction size : text.length using Nat.strong_induction_on generalizing text with
  | _ size inductionHypothesis =>
    cases text with
    | nil => exact ⟨fun _ => rfl, fun _ => rfl⟩
    | cons character rest =>
      cases matched : bearerRule.pattern (character :: rest) with
      | none =>
        rw [Rule.agrees_unmatched _ _ matched]
        cases written : asWritten bearerRule (character :: rest) with
        | none =>
          have unmatched : (writtenRule bearerRule).pattern (character :: rest) = none := written
          have later := inductionHypothesis rest.length (by rw [← size]; simp) rest rfl
          rw [Rule.apply_unmatched _ _ unmatched, Rule.apply_unmatched _ _ matched]
          exact ⟨fun same => ⟨rfl, later.mp (List.cons.inj same).2⟩,
            fun agree => congrArg _ (later.mpr agree.2)⟩
        | some found =>
          have apart := differ_written character rest found.1 found.2 written matched
          exact ⟨fun same => absurd same apart, fun agree => by cases agree.1⟩
      | some found =>
        obtain ⟨start, total⟩ := found
        rw [Rule.agrees_matched bearerRule_bounded _ _ _ matched]
        cases written : asWritten bearerRule (character :: rest) with
        | none =>
          have apart := differ_unwritten character rest start total written matched
          exact ⟨fun same => absurd same apart, fun agree => by cases agree.1⟩
        | some other =>
          obtain ⟨kept, length⟩ := other
          by_cases same_match : (kept, length) = (start, total)
          · obtain ⟨rfl, rfl⟩ := Prod.mk.inj same_match
            have found : (writtenRule bearerRule).pattern (character :: rest) =
                some (kept, length) := written
            have takes := bearerRule_bounded _ _ _ matched
            have later := inductionHypothesis ((character :: rest).drop length).length
              (by rw [← size, List.length_drop]; omega) _ rfl
            have marker : (writtenRule bearerRule).marker = bearerRule.marker := rfl
            rw [Rule.apply_matched bounded _ _ _ found,
              Rule.apply_matched bearerRule_bounded _ _ _ matched, marker]
            exact ⟨fun same => ⟨rfl, later.mp (List.append_cancel_left same)⟩,
              fun agree => congrArg _ (later.mpr agree.2)⟩
          · have apart := differ_lengths character rest kept length start total written matched
              same_match
            exact ⟨fun same => absurd same apart,
              fun agree => absurd (Option.some.inj agree.1) same_match⟩

end ReportGenerator

end TokenBank
