import Mathlib.Data.List.TakeWhile
import Mathlib.Tactic.IntervalCases
import TokenBank.Core.Loads
import TokenBank.Core.Redaction
import TokenBank.Core.Values

/-!
# Canonical texts read back

The canonical text of a value reads as the value with the members of its objects in the
order of their keys. Hence values with one canonical text differ in that order alone. A
value is plain when an object has each key once and its floats are written as floats, as
every value is that was read or that a program built.
-/

namespace TokenBank

namespace Canonical

/-! ## Plain values -/

/-- The text writes a float. -/
def floatText (text : String) : Bool :=
  match readNumber text.toList with
  | some (.float _, []) => true
  | _ => false

mutual
/-- The keys of every object are distinct, and every float is written as one. -/
def plain : Json → Bool
  | .float text => floatText text
  | .arr items => plainItems items
  | .obj fields => decide (fields.map Prod.fst).Nodup && plainFields fields
  | _ => true

/-- The items of an array are plain. -/
def plainItems : List Json → Bool
  | [] => true
  | item :: rest => plain item && plainItems rest

/-- The members of an object are plain. -/
def plainFields : List (String × Json) → Bool
  | [] => true
  | (_, value) :: rest => plain value && plainFields rest
end

/-- The members of an object in the order of their keys. -/
def byKey {α : Type} (fields : List (String × α)) : List (String × α) :=
  fields.insertionSort (fun left right => left.1 ≤ right.1)

mutual
/-- A value with the members of its objects in the order of their keys. -/
def ordered : Json → Json
  | .null => .null
  | .bool value => .bool value
  | .int value => .int value
  | .float text => .float text
  | .str text => .str text
  | .arr items => .arr (orderedItems items)
  | .obj fields => .obj (byKey (orderedFields fields))

/-- The items of an array, each ordered. -/
def orderedItems : List Json → List Json
  | [] => []
  | item :: rest => ordered item :: orderedItems rest

/-- The members of an object, each ordered. -/
def orderedFields : List (String × Json) → JsonObject
  | [] => []
  | (key, value) :: rest => (key, ordered value) :: orderedFields rest
end

/-- Ordering by key commutes with what keeps the keys. -/
theorem byKey_map {α β : Type} (fields : List (String × α)) (transform : α → β) :
    byKey (fields.map (fun field => (field.1, transform field.2))) =
      (byKey fields).map (fun field => (field.1, transform field.2)) :=
  (List.map_insertionSort (fun left right : String × α => left.1 ≤ right.1)
    (fun left right : String × β => left.1 ≤ right.1) (fun field => (field.1, transform field.2))
    fields (fun _ _ _ _ => Iff.rfl)).symm

/-- Items are plain one by one. -/
theorem plainItems_iff (items : List Json) :
    plainItems items = true ↔ ∀ item ∈ items, plain item = true := by
  induction items with
  | nil => simp [plainItems]
  | cons item rest inductionHypothesis => simp [plainItems, inductionHypothesis]

/-- Members are plain one by one. -/
theorem plainFields_iff (fields : List (String × Json)) :
    plainFields fields = true ↔ ∀ field ∈ fields, plain field.2 = true := by
  induction fields with
  | nil => simp [plainFields]
  | cons field rest inductionHypothesis => simp [plainFields, inductionHypothesis]

/-- Items are ordered one by one. -/
theorem orderedItems_map (items : List Json) : orderedItems items = items.map ordered := by
  induction items with
  | nil => rfl
  | cons item rest inductionHypothesis => simp [orderedItems, inductionHypothesis]

/-- Members are ordered one by one. -/
theorem orderedFields_map (fields : List (String × Json)) :
    orderedFields fields = fields.map (fun field => (field.1, ordered field.2)) := by
  induction fields with
  | nil => rfl
  | cons field rest inductionHypothesis => simp [orderedFields, inductionHypothesis]

/-- The texts of items are written one by one. -/
theorem dumpsItems_map (items : List Json) : dumpsItems items = items.map canonicalJsonDumps := by
  induction items with
  | nil => rfl
  | cons item rest inductionHypothesis => simp [dumpsItems, inductionHypothesis]

/-- The texts of members are written one by one. -/
theorem dumpsFields_map (fields : List (String × Json)) :
    dumpsFields fields = fields.map (fun field => (field.1, canonicalJsonDumps field.2)) := by
  induction fields with
  | nil => rfl
  | cons field rest inductionHypothesis => simp [dumpsFields, inductionHypothesis]

/-- The text of a member. -/
def memberText (field : String × Json) : String :=
  quoted field.1 ++ ":" ++ canonicalJsonDumps field.2

/-- The text of an object: its members by key. -/
theorem canonicalJsonDumps_obj (fields : JsonObject) : canonicalJsonDumps (.obj fields) =
    "\x7b" ++ ",".intercalate ((byKey fields).map memberText) ++ "\x7d" := by
  have sorted := byKey_map fields canonicalJsonDumps
  simp only [canonicalJsonDumps, dumpsFields_map]
  rw [byKey] at sorted
  rw [sorted, List.map_map]
  rfl

/-- An object ordered: its members by key, each ordered. -/
theorem ordered_obj (fields : JsonObject) : ordered (.obj fields) =
    .obj ((byKey fields).map (fun field => (field.1, ordered field.2))) := by
  rw [ordered, orderedFields_map, byKey_map]

/-! ## Numbers read back -/

/-- What may follow a value inside a canonical text, or behind it in a file of lines. -/
def closes : List Char → Bool
  | [] => true
  | character :: _ =>
    character = ',' || character = ']' || character = '\x7d' || character = '\n'

/-- A character that closes is none a number goes on with. -/
theorem closes_unlike (character : Char) (rest : List Char)
    (closing : closes (character :: rest) = true) :
    character.isDigit = false ∧ character ≠ '.' ∧ character ≠ 'e' ∧ character ≠ 'E' ∧
      character ≠ '+' ∧ character ≠ '-' := by
  simp only [closes, Bool.or_eq_true, decide_eq_true_eq] at closing
  rcases closing with ((rfl | rfl) | rfl) | rfl <;> decide

/-- The digits before a closing text are those of the text without it. -/
theorem readDigits_append (text rest : List Char) (closing : closes rest = true) :
    readDigits (text ++ rest) = ((readDigits text).1, (readDigits text).2 ++ rest) := by
  induction text with
  | nil =>
    cases rest with
    | nil => rfl
    | cons character rest =>
      have other := (closes_unlike character rest closing).1
      simp [readDigits, other]
  | cons head text inductionHypothesis =>
    simp only [readDigits, Prod.mk.injEq] at inductionHypothesis
    cases digit : head.isDigit with
    | true => simp [readDigits, digit, inductionHypothesis]
    | false => simp [readDigits, digit]

/-- The sign before a closing text is that of the text without it. -/
theorem readSign_append (text rest : List Char) (closing : closes rest = true) :
    readSign (text ++ rest) = ((readSign text).1, (readSign text).2 ++ rest) := by
  cases text with
  | nil =>
    cases rest with
    | nil => rfl
    | cons character rest =>
      have other := (closes_unlike character rest closing).2.2.2.2.2
      simp [readSign, other]
  | cons head text =>
    by_cases minus : head = '-'
    · simp [readSign, minus]
    · simp [readSign, minus]

/-- The fraction before a closing text is that of the text without it. -/
theorem readFraction_append (text rest : List Char) (closing : closes rest = true) :
    readFraction (text ++ rest) = ((readFraction text).1, (readFraction text).2 ++ rest) := by
  cases text with
  | nil =>
    cases rest with
    | nil => rfl
    | cons character rest =>
      have other := (closes_unlike character rest closing).2.1
      simp [readFraction, other]
  | cons head text =>
    by_cases point : head = '.'
    · subst point
      simp only [List.cons_append, readFraction, readDigits_append text rest closing]
      split <;> rfl
    · simp [readFraction, point]

/-- The sign of an exponent before a closing text is that of the text without it. -/
theorem readExponentSign_append (text rest : List Char) (closing : closes rest = true) :
    readExponentSign (text ++ rest) =
      ((readExponentSign text).1, (readExponentSign text).2 ++ rest) := by
  cases text with
  | nil =>
    cases rest with
    | nil => rfl
    | cons character rest =>
      obtain ⟨-, -, -, -, plus, minus⟩ := closes_unlike character rest closing
      simp [readExponentSign, readSign, plus, minus]
  | cons head text =>
    by_cases plus : head = '+'
    · simp [readExponentSign, plus]
    · have signed := readSign_append (head :: text) rest closing
      simpa [readExponentSign, plus] using signed

/-- The exponent before a closing text is that of the text without it. -/
theorem readExponent_append (text rest : List Char) (closing : closes rest = true) :
    readExponent (text ++ rest) = ((readExponent text).1, (readExponent text).2 ++ rest) := by
  cases text with
  | nil =>
    cases rest with
    | nil => rfl
    | cons character rest =>
      obtain ⟨-, -, small, large, -⟩ := closes_unlike character rest closing
      simp [readExponent, small, large]
  | cons head text =>
    simp only [List.cons_append, readExponent, readExponentSign_append text rest closing,
      readDigits_append _ rest closing]
    split <;> rfl

/-- The number before a closing text is that of the text without it. -/
theorem readNumber_append (text rest : List Char) (closing : closes rest = true) :
    readNumber (text ++ rest) =
      (readNumber text).map (fun read => (read.1, read.2 ++ rest)) := by
  simp only [readNumber, readSign_append text rest closing, readDigits_append _ rest closing,
    readFraction_append _ rest closing, readExponent_append _ rest closing]
  split_ifs <;> rfl

/-- A number written without a sign in front and without leading zeros. -/
theorem toDigits_head (value : Nat) (positive : 0 < value) :
    (Nat.toDigits 10 value).head? ≠ some '0' := by
  induction value using Nat.strong_induction_on with
  | _ value inductionHypothesis =>
    by_cases single : value < 10
    · rw [Nat.toDigits_of_lt_base single]
      interval_cases value <;> decide
    · rw [Nat.toDigits_of_base_le (by decide) (by omega), List.head?_append_of_ne_nil _
        Nat.toDigits_ne_nil]
      exact inductionHypothesis (value / 10) (by omega) (by omega)

/-- The digits of a number are read as a whole. -/
theorem readDigits_toDigits (value : Nat) :
    readDigits (Nat.toDigits 10 value) = (Nat.toDigits 10 value, []) := by
  have digits : ∀ character ∈ Nat.toDigits 10 value, character.isDigit = true :=
    fun character member => Nat.isDigit_of_mem_toDigits (by decide) (by decide) member
  simp only [readDigits, Prod.mk.injEq, List.takeWhile_eq_self_iff, List.dropWhile_eq_nil_iff]
  exact ⟨digits, digits⟩

/-- The digits of a number are no refused ones. -/
theorem toDigits_fine (value : Nat) : ¬ (Nat.toDigits 10 value = [] ∨
    (Nat.toDigits 10 value).head? = some '0' ∧ Nat.toDigits 10 value ≠ ['0']) := by
  rintro (none | ⟨zero, longer⟩)
  · exact Nat.toDigits_ne_nil none
  · rcases Nat.eq_zero_or_pos value with rfl | positive
    · exact longer rfl
    · exact toDigits_head value positive zero

/-- The text of an integer reads as the integer. -/
theorem readNumber_int (value : Int) :
    readNumber (toString value).toList = some (.int value, []) := by
  cases value with
  | ofNat value =>
    have text : (toString (Int.ofNat value)).toList = Nat.toDigits 10 value :=
      Nat.toList_repr
    have unsigned : readSign (Nat.toDigits 10 value) = ([], Nat.toDigits 10 value) := by
      cases digits : Nat.toDigits 10 value with
      | nil => exact absurd digits Nat.toDigits_ne_nil
      | cons head rest =>
        have digit : head.isDigit = true :=
          Nat.isDigit_of_mem_toDigits (b := 10) (n := value) (by decide) (by decide) (by simp [digits])
        have other : head ≠ '-' := by
          rintro rfl
          exact absurd digit (by decide)
        simp [readSign, other]
    simp only [text, readNumber, unsigned, readDigits_toDigits, if_neg (toDigits_fine value)]
    simp [readFraction, readExponent, naturalOf, Nat.ofDigitChars_ten_toDigits]
  | negSucc value =>
    have text : (toString (Int.negSucc value)).toList = '-' :: Nat.toDigits 10 (value + 1) := by
      change ("-" ++ Nat.repr (value + 1)).toList = _
      rw [String.toList_append, Nat.toList_repr]
      rfl
    have signed : readSign ('-' :: Nat.toDigits 10 (value + 1)) =
        (['-'], Nat.toDigits 10 (value + 1)) := rfl
    simp only [text, readNumber, signed, readDigits_toDigits, if_neg (toDigits_fine (value + 1))]
    simp [readFraction, readExponent, naturalOf, Nat.ofDigitChars_ten_toDigits]
    omega

/-- Digits and what follows them make up a text. -/
theorem readDigits_whole (text : List Char) : (readDigits text).1 ++ (readDigits text).2 = text :=
  List.takeWhile_append_dropWhile

/-- A sign and what follows it make up a text. -/
theorem readSign_whole (text : List Char) : (readSign text).1 ++ (readSign text).2 = text := by
  unfold readSign
  split <;> rfl

/-- A fraction and what follows it make up a text. -/
theorem readFraction_whole (text : List Char) :
    (readFraction text).1 ++ (readFraction text).2 = text := by
  unfold readFraction
  split
  · split
    · rfl
    · rw [List.cons_append, readDigits_whole]
  · rfl

/-- An exponent and what follows it make up a text. -/
theorem readExponent_whole (text : List Char) :
    (readExponent text).1 ++ (readExponent text).2 = text := by
  have sign (text : List Char) :
      (readExponentSign text).1 ++ (readExponentSign text).2 = text := by
    unfold readExponentSign
    split
    · rfl
    · exact readSign_whole _
  cases text with
  | nil => rfl
  | cons letter rest =>
    simp only [readExponent]
    split
    · rw [List.cons_append, List.cons_append, List.append_assoc, readDigits_whole, sign]
    · rfl

/-- A float is read as the float it is. -/
theorem readNumber_float (text : String) (written : floatText text = true) :
    readNumber text.toList = some (.float text, []) := by
  have whole : (readSign text.toList).1 ++ (readDigits (readSign text.toList).2).1 ++
      (readFraction (readDigits (readSign text.toList).2).2).1 ++
      (readExponent (readFraction (readDigits (readSign text.toList).2).2).2).1 ++
      (readExponent (readFraction (readDigits (readSign text.toList).2).2).2).2 = text.toList := by
    simp only [List.append_assoc, readExponent_whole, readFraction_whole, readDigits_whole,
      readSign_whole]
  unfold floatText at written
  unfold readNumber at written ⊢
  dsimp only at written ⊢
  split_ifs at written ⊢ with refused integer
  split at written
  · rename_i read
    simp only [Option.some.injEq, Prod.mk.injEq] at read
    rw [read.2, List.append_nil] at whole
    rw [whole, read.2, String.ofList_toList]
  · cases written

/-! ## Strings read back -/

/-- The value of a hexadecimal digit that was written. -/
theorem hexValue_hexDigit : ∀ value < 16, hexValue (hexDigit value) = some value := by decide

/-- The character that four hexadecimal digits name is read. -/
theorem readString_unicode (first second third fourth character : Char) (rest : List Char)
    (named : unicodeEscape first second third fourth = some character) :
    readString ('\\' :: 'u' :: first :: second :: third :: fourth :: rest) =
      (readString rest).map (withCharacter character) := by
  rw [readString.eq_def]
  simp only [named]

/-- An escaped character reads as itself. -/
theorem readString_escaped (character : Char) (rest : List Char) :
    readString ((escaped character).toList ++ rest) =
      (readString rest).map (withCharacter character) := by
  unfold escaped
  split_ifs with quote backslash newline carriage tab form back control
  · subst quote
    simp [readString, simpleEscape]
  · subst backslash
    simp [readString, simpleEscape]
  · subst newline
    simp [readString, simpleEscape]
  · subst carriage
    simp [readString, simpleEscape]
  · subst tab
    simp [readString, simpleEscape]
  · have same : character = Char.ofNat 12 := (form ▸ Char.ofNat_toNat character).symm
    subst same
    simp [readString, simpleEscape]
  · have same : character = Char.ofNat 8 := (back ▸ Char.ofNat_toNat character).symm
    subst same
    simp [readString, simpleEscape]
  · have high := hexValue_hexDigit (character.toNat / 16) (by omega)
    have low := hexValue_hexDigit (character.toNat % 16) (by omega)
    have zero : hexValue '0' = some 0 := by decide
    have code : character.toNat / 16 * 16 + character.toNat % 16 = character.toNat := by omega
    have plain : ¬ (55296 ≤ character.toNat ∧ character.toNat ≤ 57343) := by omega
    have named : unicodeEscape '0' '0' (hexDigit (character.toNat / 16))
        (hexDigit (character.toNat % 16)) = some character := by
      simp [unicodeEscape, zero, high, low, code, plain, Char.ofNat_toNat]
    simp [String.toList_append, readString_unicode _ _ _ _ _ _ named]
  · have single : (String.ofList [character]).toList ++ rest = character :: rest := by simp
    rw [single, readString.eq_def]
    split
    · simp_all
    · simp_all
    · simp_all
    · simp_all
    · simp_all

/-- A quoted text reads as itself. -/
theorem readString_quoted (text rest : List Char) :
    readString ((text.flatMap (fun character => (escaped character).toList)) ++ '"' :: rest) =
      some (text, rest) := by
  induction text with
  | nil => simp [readString]
  | cons character text inductionHypothesis =>
    rw [List.flatMap_cons, List.append_assoc, readString_escaped, inductionHypothesis]
    rfl

/-- The characters of a string literal. -/
theorem quoted_toList (text : String) : (quoted text).toList =
    '"' :: (text.toList.flatMap (fun character => (escaped character).toList)) ++ ['"'] := by
  simp [quoted, String.toList_append, String.toList_join, List.flatMap_map]

/-! ## Values read back -/

/-- A value can be read back from its text, whatever closes it. -/
def Readable (value : Json) : Prop :=
  ∀ fuel rest, (canonicalJsonDumps value).toList.length ≤ fuel → closes rest = true →
    readValue fuel ((canonicalJsonDumps value).toList ++ rest) = some (ordered value, rest)

/-- Items with commas between them. -/
def listed (texts : List String) : List Char := (",".intercalate texts).toList

/-- One text alone, or in front of others. -/
theorem listed_cons (text : String) (texts : List String) :
    listed (text :: texts) = text.toList ++ (if texts = [] then [] else ',' :: listed texts) := by
  cases texts with
  | nil => simp [listed, String.intercalate_singleton]
  | cons next rest => simp [listed, String.intercalate_cons_cons, String.toList_append]

/-- A number starts with a digit or a sign. -/
theorem readNumber_start (text : List Char) (read : Json × List Char)
    (number : readNumber text = some read) :
    ∃ head tail, text = head :: tail ∧ (head = '-' ∨ head.isDigit = true) := by
  cases text with
  | nil => simp [readNumber, readSign, readDigits] at number
  | cons head tail =>
    refine ⟨head, tail, rfl, ?_⟩
    by_cases minus : head = '-'
    · exact .inl minus
    · right
      have unsigned : readSign (head :: tail) = ([], head :: tail) := by simp [readSign, minus]
      cases digit : head.isDigit with
      | true => rfl
      | false => simp [readNumber, unsigned, readDigits, digit] at number

/-- What a number starts with is no blank, and starts nothing else. -/
theorem number_unlike (head : Char) (kind : head = '-' ∨ head.isDigit = true) :
    jsonBlank head = false ∧ head ≠ 'n' ∧ head ≠ 't' ∧ head ≠ 'f' ∧ head ≠ '"' ∧ head ≠ '[' ∧
      head ≠ '\x7b' ∧ head ≠ ']' := by
  rcases kind with rfl | digit
  · decide
  · refine ⟨?_, ?_, ?_, ?_, ?_, ?_, ?_, ?_⟩
    · simp only [jsonBlank, Bool.or_eq_false_iff, decide_eq_false_iff_not]
      refine ⟨⟨⟨?_, ?_⟩, ?_⟩, ?_⟩ <;> (rintro rfl; exact absurd digit (by decide))
    all_goals (rintro rfl; exact absurd digit (by decide))

/-- A text that starts with a digit or a sign is read as a number. -/
theorem readValue_number (fuel : Nat) (text rest : List Char) (value : Json)
    (number : readNumber text = some (value, [])) (closing : closes rest = true) :
    readValue (fuel + 1) (text ++ rest) = some (value, rest) := by
  have read : readNumber (text ++ rest) = some (value, rest) := by
    rw [readNumber_append text rest closing, number]
    rfl
  obtain ⟨head, tail, starts, kind⟩ := readNumber_start text _ number
  subst starts
  obtain ⟨visible, null, yes, no, quote, bracket, brace, -⟩ := number_unlike head kind
  have skipped : afterBlanks (head :: tail ++ rest) = head :: (tail ++ rest) := by
    simp [afterBlanks, visible]
  rw [readValue, skipped]
  simp only [List.cons_append] at read
  split
  all_goals simp_all

/-- The text of a value starts with a character that is neither a blank nor a closing bracket. -/
theorem canonicalJsonDumps_start (value : Json) (written : plain value = true) :
    ∃ head tail, (canonicalJsonDumps value).toList = head :: tail ∧ jsonBlank head = false ∧
      head ≠ ']' := by
  have number (text : List Char) (read : Json × List Char) (isNumber : readNumber text = some read) :
      ∃ head tail, text = head :: tail ∧ jsonBlank head = false ∧ head ≠ ']' := by
    obtain ⟨head, tail, starts, kind⟩ := readNumber_start text read isNumber
    obtain ⟨visible, -, -, -, -, -, -, bracket⟩ := number_unlike head kind
    exact ⟨head, tail, starts, visible, bracket⟩
  cases value with
  | null => exact ⟨'n', ['u', 'l', 'l'], by decide +kernel, by decide, by decide⟩
  | bool value =>
    cases value with
    | true => exact ⟨'t', ['r', 'u', 'e'], by decide +kernel, by decide, by decide⟩
    | false => exact ⟨'f', ['a', 'l', 's', 'e'], by decide +kernel, by decide, by decide⟩
  | int value => exact number _ _ (readNumber_int value)
  | float text => exact number _ _ (readNumber_float text written)
  | str text =>
    exact ⟨'"', _, by rw [canonicalJsonDumps, quoted_toList, List.cons_append], by decide, by decide⟩
  | arr items =>
    refine ⟨'[', listed (dumpsItems items) ++ [']'], ?_, by decide, by decide⟩
    rw [canonicalJsonDumps, String.toList_append, String.toList_append]
    rfl
  | obj fields =>
    refine ⟨'\x7b', listed ((byKey fields).map memberText) ++ ['\x7d'], ?_, by decide, by decide⟩
    rw [canonicalJsonDumps_obj, String.toList_append, String.toList_append]
    rfl

/-- Nothing is skipped in front of a visible character. -/
theorem afterBlanks_visible (character : Char) (rest : List Char)
    (visible : jsonBlank character = false) :
    afterBlanks (character :: rest) = character :: rest := by
  simp [afterBlanks, visible]

/-- What is read from the text of one more item on. -/
theorem readItems_item (item : Json) (readable : Readable item) (fuel : Nat) (left : List Char)
    (enough : (canonicalJsonDumps item).toList.length ≤ fuel) (closing : closes left = true) :
    readItems (fuel + 1) ((canonicalJsonDumps item).toList ++ left) =
      match afterBlanks left with
      | ']' :: rest => some ([ordered item], rest)
      | ',' :: rest => (readItems fuel rest).map (fun read => (ordered item :: read.1, read.2))
      | _ => none := by
  rw [readItems, readable fuel left enough closing]
  rfl

/-- What is read from the text of one more member on. -/
theorem readMembers_member (field : String × Json) (readable : Readable field.2) (fuel : Nat)
    (left : List Char) (enough : (memberText field).toList.length ≤ fuel)
    (closing : closes left = true) :
    readMembers (fuel + 1) ((memberText field).toList ++ left) =
      match afterBlanks left with
      | '\x7d' :: rest => some ([(field.1, ordered field.2)], rest)
      | ',' :: rest =>
        (readMembers fuel rest).map (fun read => ((field.1, ordered field.2) :: read.1, read.2))
      | _ => none := by
  obtain ⟨key, value⟩ := field
  have text : (memberText (key, value)).toList =
      '"' :: (key.toList.flatMap (fun character => (escaped character).toList) ++
        '"' :: ':' :: (canonicalJsonDumps value).toList) := by
    simp [memberText, String.toList_append, quoted_toList]
  rw [text] at enough ⊢
  simp only [List.length_append, List.length_cons] at enough
  have within : (canonicalJsonDumps value).toList.length ≤ fuel := by omega
  rw [List.cons_append, readMembers, afterBlanks_visible '"' _ (by decide)]
  simp only
  rw [List.append_assoc, List.cons_append, readString_quoted]
  simp only [Option.bind_some, List.cons_append]
  rw [afterBlanks_visible ':' _ (by decide)]
  simp only
  rw [readable fuel left within closing]
  simp only [Option.bind_some]
  rewrite [String.ofList_toList]
  rfl

/-- Readable items are read back one after the other. -/
theorem readItems_listed (items : List Json) (some : items ≠ [])
    (readable : ∀ item ∈ items, Readable item) (fuel : Nat) (rest : List Char)
    (enough : (listed (items.map canonicalJsonDumps)).length < fuel) :
    readItems fuel (listed (items.map canonicalJsonDumps) ++ ']' :: rest) =
      .some (items.map ordered, rest) := by
  induction items generalizing fuel with
  | nil => exact absurd rfl some
  | cons item others inductionHypothesis =>
    obtain ⟨here, later⟩ := List.forall_mem_cons.mp readable
    obtain ⟨fuel, rfl⟩ := Nat.exists_eq_succ_of_ne_zero (Nat.ne_zero_of_lt enough)
    rw [List.map_cons, listed_cons, List.length_append] at enough
    rw [List.map_cons, listed_cons, List.append_assoc]
    cases others with
    | nil =>
      rw [List.map_nil, if_pos rfl, List.nil_append,
        readItems_item item here fuel _ (by omega) (by rfl), afterBlanks_visible ']' _ (by decide)]
      rfl
    | cons next others =>
      have more : List.map canonicalJsonDumps (next :: others) ≠ [] := by simp
      rw [if_neg more, List.length_cons] at enough
      rw [if_neg more, List.cons_append, readItems_item item here fuel _ (by omega) (by rfl),
        afterBlanks_visible ',' _ (by decide)]
      simp only
      rw [inductionHypothesis (by simp) later fuel (by omega)]
      rfl

/-- Members with readable values are read back one after the other. -/
theorem readMembers_listed (fields : List (String × Json)) (some : fields ≠ [])
    (readable : ∀ field ∈ fields, Readable field.2) (fuel : Nat) (rest : List Char)
    (enough : (listed (fields.map memberText)).length < fuel) :
    readMembers fuel (listed (fields.map memberText) ++ '\x7d' :: rest) =
      .some (fields.map (fun field => (field.1, ordered field.2)), rest) := by
  induction fields generalizing fuel with
  | nil => exact absurd rfl some
  | cons field others inductionHypothesis =>
    obtain ⟨here, later⟩ := List.forall_mem_cons.mp readable
    obtain ⟨fuel, rfl⟩ := Nat.exists_eq_succ_of_ne_zero (Nat.ne_zero_of_lt enough)
    rw [List.map_cons, listed_cons, List.length_append] at enough
    rw [List.map_cons, listed_cons, List.append_assoc]
    cases others with
    | nil =>
      rw [List.map_nil, if_pos rfl, List.nil_append,
        readMembers_member field here fuel _ (by omega) (by rfl),
        afterBlanks_visible '\x7d' _ (by decide)]
      rfl
    | cons next others =>
      have more : List.map memberText (next :: others) ≠ [] := by simp
      rw [if_neg more, List.length_cons] at enough
      rw [if_neg more, List.cons_append, readMembers_member field here fuel _ (by omega) (by rfl),
        afterBlanks_visible ',' _ (by decide)]
      simp only
      rw [inductionHypothesis (by simp) later fuel (by omega)]
      rfl

/-- An object with distinct keys has the members it was given. -/
theorem objectOf_distinct (members : List (String × Json))
    (distinct : (members.map Prod.fst).Nodup) : objectOf members = members := by
  have kept (earlier later : List (String × Json))
      (apart : ((earlier ++ later).map Prod.fst).Nodup) :
      later.foldl putMember earlier = earlier ++ later := by
    induction later generalizing earlier with
    | nil => simp
    | cons field rest inductionHypothesis =>
      have new : field.1 ∉ earlier.map Prod.fst := by
        rw [List.map_append, List.nodup_append] at apart
        intro member
        exact apart.2.2 _ member _ (by simp) rfl
      rw [List.foldl_cons, putMember, if_neg new, inductionHypothesis _ (by simpa using apart)]
      simp
  exact kept [] members (by simpa using distinct)

mutual
/-- The text of a plain value can be read back, whatever closes it. -/
theorem readable : ∀ value, plain value = true → Readable value
  | .null, _ => fun fuel rest enough _ => by
    have text : (canonicalJsonDumps .null).toList = ['n', 'u', 'l', 'l'] := by decide +kernel
    rw [text] at enough ⊢
    obtain ⟨fuel, rfl⟩ := Nat.exists_eq_succ_of_ne_zero (Nat.ne_zero_of_lt enough)
    rfl
  | .bool true, _ => fun fuel rest enough _ => by
    have text : (canonicalJsonDumps (.bool true)).toList = ['t', 'r', 'u', 'e'] := by
      decide +kernel
    rw [text] at enough ⊢
    obtain ⟨fuel, rfl⟩ := Nat.exists_eq_succ_of_ne_zero (Nat.ne_zero_of_lt enough)
    rfl
  | .bool false, _ => fun fuel rest enough _ => by
    have text : (canonicalJsonDumps (.bool false)).toList = ['f', 'a', 'l', 's', 'e'] := by
      decide +kernel
    rw [text] at enough ⊢
    obtain ⟨fuel, rfl⟩ := Nat.exists_eq_succ_of_ne_zero (Nat.ne_zero_of_lt enough)
    rfl
  | .int value, written => fun fuel rest enough closing => by
    obtain ⟨head, tail, starts, -⟩ := canonicalJsonDumps_start (.int value) written
    rw [starts, List.length_cons] at enough
    obtain ⟨fuel, rfl⟩ := Nat.exists_eq_succ_of_ne_zero (Nat.ne_zero_of_lt enough)
    exact readValue_number fuel _ rest _ (readNumber_int value) closing
  | .float text, written => fun fuel rest enough closing => by
    obtain ⟨head, tail, starts, -⟩ := canonicalJsonDumps_start (.float text) written
    rw [starts, List.length_cons] at enough
    obtain ⟨fuel, rfl⟩ := Nat.exists_eq_succ_of_ne_zero (Nat.ne_zero_of_lt enough)
    exact readValue_number fuel _ rest _ (readNumber_float text written) closing
  | .str text, _ => fun fuel rest enough _ => by
    rw [canonicalJsonDumps, quoted_toList, List.cons_append] at enough ⊢
    rw [List.length_cons] at enough
    obtain ⟨fuel, rfl⟩ := Nat.exists_eq_succ_of_ne_zero (Nat.ne_zero_of_lt enough)
    rw [List.cons_append, readValue, afterBlanks_visible '"' _ (by decide)]
    simp only
    rw [List.append_assoc, List.singleton_append, readString_quoted]
    simp only [Option.map_some, String.ofList_toList, ordered]
  | .arr items, written => fun fuel rest enough _ => by
    have text : (canonicalJsonDumps (.arr items)).toList =
        '[' :: (listed (items.map canonicalJsonDumps) ++ [']']) := by
      rw [canonicalJsonDumps, String.toList_append, String.toList_append, dumpsItems_map]
      rfl
    rw [text] at enough ⊢
    rw [List.length_cons, List.length_append, List.length_singleton] at enough
    obtain ⟨fuel, rfl⟩ := Nat.exists_eq_succ_of_ne_zero (Nat.ne_zero_of_lt enough)
    rw [List.cons_append, readValue, afterBlanks_visible '[' _ (by decide)]
    simp only
    cases items with
    | nil => rfl
    | cons item others =>
      have itemsReadable := readable_items (item :: others) (by simpa [plain] using written)
      obtain ⟨head, tail, starts, visible, opens⟩ := canonicalJsonDumps_start item
        ((plainItems_iff (item :: others)).mp (by simpa [plain] using written) item (by simp))
      rw [List.append_assoc, List.singleton_append]
      have first : (afterBlanks (listed ((item :: others).map canonicalJsonDumps) ++
          ']' :: rest)).head? ≠ some ']' := by
        rw [List.map_cons, listed_cons, starts, List.append_assoc, List.cons_append,
          afterBlanks_visible head _ visible, List.head?_cons, ne_eq, Option.some.injEq]
        exact opens
      rw [if_neg first, readItems_listed (item :: others) (by simp) itemsReadable fuel rest
        (by omega), ordered, orderedItems_map]
      rfl
  | .obj fields, written => fun fuel rest enough _ => by
    rw [plain, Bool.and_eq_true, decide_eq_true_eq] at written
    have same := List.perm_insertionSort (fun left right : String × Json => left.1 ≤ right.1) fields
    have sortedReadable : ∀ field ∈ byKey fields, Readable field.2 := fun field member =>
      readable_fields fields written.2 field (same.mem_iff.mp member)
    have sortedDistinct : ((byKey fields).map Prod.fst).Nodup :=
      (same.map Prod.fst).nodup_iff.mpr written.1
    have text : (canonicalJsonDumps (.obj fields)).toList =
        '\x7b' :: (listed ((byKey fields).map memberText) ++ ['\x7d']) := by
      rw [canonicalJsonDumps_obj, String.toList_append, String.toList_append]
      rfl
    rw [ordered_obj]
    rw [text] at enough ⊢
    rw [List.length_cons, List.length_append, List.length_singleton] at enough
    obtain ⟨fuel, rfl⟩ := Nat.exists_eq_succ_of_ne_zero (Nat.ne_zero_of_lt enough)
    rw [List.cons_append, readValue, afterBlanks_visible '\x7b' _ (by decide)]
    simp only
    cases sorted : byKey fields with
    | nil => rfl
    | cons field others =>
      rw [sorted] at sortedReadable sortedDistinct enough
      rw [List.append_assoc, List.singleton_append]
      have first : (afterBlanks (listed ((field :: others).map memberText) ++
          '\x7d' :: rest)).head? ≠ some '\x7d' := by
        rw [List.map_cons, listed_cons, memberText, String.toList_append, String.toList_append,
          quoted_toList, List.cons_append, List.cons_append, List.cons_append, List.cons_append,
          List.cons_append, afterBlanks_visible '"' _ (by decide), List.head?_cons]
        decide
      rw [if_neg first, readMembers_listed (field :: others) (by simp) sortedReadable fuel rest
        (by omega)]
      simp only [Option.map_some]
      rw [objectOf_distinct]
      simpa [List.map_map, Function.comp_def] using sortedDistinct

/-- The items of a plain array are readable. -/
theorem readable_items : ∀ items, plainItems items = true → ∀ item ∈ items, Readable item
  | [], _ => by simp
  | item :: rest, written => by
    rw [plainItems, Bool.and_eq_true] at written
    exact List.forall_mem_cons.mpr ⟨readable item written.1, readable_items rest written.2⟩

/-- The members of a plain object are readable. -/
theorem readable_fields : ∀ fields, plainFields fields = true → ∀ field ∈ fields, Readable field.2
  | [], _ => by simp
  | (_, value) :: rest, written => by
    rw [plainFields, Bool.and_eq_true] at written
    exact List.forall_mem_cons.mpr ⟨readable value written.1, readable_fields rest written.2⟩
end

/-! ## Canonical texts -/

/-- The canonical text of a value reads as the value, ordered. -/
theorem jsonLoads_canonicalJsonDumps (value : Json) (written : plain value = true) :
    jsonLoads (canonicalJsonDumps value) = some (ordered value) := by
  have read := readable value written ((canonicalJsonDumps value).toList.length + 1) []
    (Nat.le_succ _) rfl
  rw [List.append_nil] at read
  rw [jsonLoads, read]
  rfl

/-- Values with one canonical text are equal up to the order of members. -/
theorem ordered_of_same_text (left right : Json) (plainLeft : plain left = true)
    (plainRight : plain right = true)
    (same : canonicalJsonDumps left = canonicalJsonDumps right) : ordered left = ordered right := by
  have readLeft := jsonLoads_canonicalJsonDumps left plainLeft
  rw [same, jsonLoads_canonicalJsonDumps right plainRight] at readLeft
  exact (Option.some.inj readLeft).symm

/-- Members by key are in order, so that ordering them again changes nothing. -/
theorem byKey_byKey {α : Type} (fields : List (String × α)) : byKey (byKey fields) = byKey fields := by
  have total : Std.Total (fun left right : String × α => left.1 ≤ right.1) :=
    ⟨fun left right => le_total left.1 right.1⟩
  have trans : IsTrans (String × α) (fun left right => left.1 ≤ right.1) := ⟨fun _ _ _ => le_trans⟩
  exact (List.pairwise_insertionSort _ fields).insertionSort_eq

/-- An object with members that keep their keys and their texts keeps its text. -/
theorem canonicalJsonDumps_byKey (fields : JsonObject) (transform : Json → Json)
    (same : ∀ field ∈ fields, canonicalJsonDumps (transform field.2) = canonicalJsonDumps field.2) :
    canonicalJsonDumps (.obj (byKey (fields.map (fun field => (field.1, transform field.2))))) =
      canonicalJsonDumps (.obj fields) := by
  rw [canonicalJsonDumps_obj, canonicalJsonDumps_obj, byKey_byKey, byKey_map, List.map_map]
  have texts : (byKey fields).map (memberText ∘ (fun field => (field.1, transform field.2))) =
      (byKey fields).map memberText := by
    apply List.map_congr_left
    intro field member
    have stored := (List.mem_insertionSort _).mp member
    simp only [Function.comp_apply, memberText, same field stored]
  rw [texts]

mutual
/-- Ordering a value does not change its canonical text. -/
theorem canonicalJsonDumps_ordered : ∀ value,
    canonicalJsonDumps (ordered value) = canonicalJsonDumps value
  | .null => rfl
  | .bool _ => rfl
  | .int _ => rfl
  | .float _ => rfl
  | .str _ => rfl
  | .arr items => by
    rw [ordered, canonicalJsonDumps, canonicalJsonDumps, dumpsItems_orderedItems items]
  | .obj fields => by
    rw [ordered, orderedFields_map]
    exact canonicalJsonDumps_byKey fields ordered (canonicalJsonDumps_orderedFields fields)

/-- Ordering items does not change their texts. -/
theorem dumpsItems_orderedItems : ∀ items, dumpsItems (orderedItems items) = dumpsItems items
  | [] => rfl
  | item :: rest => by
    rw [orderedItems, dumpsItems, dumpsItems, canonicalJsonDumps_ordered item,
      dumpsItems_orderedItems rest]

/-- Ordering members does not change their texts. -/
theorem canonicalJsonDumps_orderedFields : ∀ fields : JsonObject, ∀ field ∈ fields,
    canonicalJsonDumps (ordered field.2) = canonicalJsonDumps field.2
  | [] => by simp
  | (_, value) :: rest =>
    List.forall_mem_cons.mpr
      ⟨canonicalJsonDumps_ordered value, canonicalJsonDumps_orderedFields rest⟩
end

mutual
/-- A plain value is plain when it is ordered. -/
theorem plain_ordered : ∀ value, plain value = true → plain (ordered value) = true
  | .null, _ => rfl
  | .bool _, _ => rfl
  | .int _, _ => rfl
  | .float _, written => written
  | .str _, _ => rfl
  | .arr items, written => by
    rw [ordered, plain]
    exact plainItems_ordered items written
  | .obj fields, written => by
    rw [plain, Bool.and_eq_true, decide_eq_true_eq] at written
    have rearranged := List.perm_insertionSort (fun left right : String × Json => left.1 ≤ right.1)
      (orderedFields fields)
    have keys : (orderedFields fields).map Prod.fst = fields.map Prod.fst := by
      rw [orderedFields_map, List.map_map]
      rfl
    rw [ordered, plain, Bool.and_eq_true, decide_eq_true_eq, plainFields_iff]
    refine ⟨(rearranged.map Prod.fst).nodup_iff.mpr (keys ▸ written.1), ?_⟩
    intro field member
    exact (plainFields_iff _).mp (plainFields_ordered fields written.2) field
      (rearranged.mem_iff.mp member)

/-- Plain items are plain when they are ordered. -/
theorem plainItems_ordered : ∀ items, plainItems items = true →
    plainItems (orderedItems items) = true
  | [], _ => rfl
  | item :: rest, written => by
    rw [plainItems, Bool.and_eq_true] at written
    rw [orderedItems, plainItems, plain_ordered item written.1, plainItems_ordered rest written.2]
    rfl

/-- Plain members are plain when they are ordered. -/
theorem plainFields_ordered : ∀ fields : JsonObject, plainFields fields = true →
    plainFields (orderedFields fields) = true
  | [], _ => rfl
  | (key, value) :: rest, written => by
    rw [plainFields, Bool.and_eq_true] at written
    rw [orderedFields, plainFields, plain_ordered value written.1,
      plainFields_ordered rest written.2]
    rfl
end

/-! ## Members read back -/

/-- The member found under a key that occurs once. -/
theorem find?_of_mem {α : Type} (fields : List (String × α))
    (distinct : (fields.map Prod.fst).Nodup) (field : String × α) (member : field ∈ fields) :
    fields.find? (fun other => other.1 = field.1) = some field := by
  induction fields with
  | nil => cases member
  | cons head rest inductionHypothesis =>
    rw [List.map_cons, List.nodup_cons] at distinct
    rcases List.mem_cons.mp member with same | later
    · subst same
      simp
    · have apart : head.1 ≠ field.1 := by
        intro same
        exact distinct.1 (List.mem_map.mpr ⟨field, later, same.symm⟩)
      rw [List.find?_cons_of_neg (by simpa using apart)]
      exact inductionHypothesis distinct.2 later

/-- The members of an ordered object are those of the object, ordered. -/
theorem find?_ordered (fields : JsonObject) (distinct : (fields.map Prod.fst).Nodup)
    (key : String) :
    ((byKey fields).map (fun field => (field.1, ordered field.2))).find?
        (fun field => field.1 = key) =
      (fields.find? (fun field => field.1 = key)).map
        (fun field => (field.1, ordered field.2)) := by
  have rearranged : (((byKey fields).map (fun field => (field.1, ordered field.2))).map
      Prod.fst).Perm (fields.map Prod.fst) := by
    rw [List.map_map]
    exact (List.perm_insertionSort _ fields).map _
  by_cases present : key ∈ fields.map Prod.fst
  · obtain ⟨field, member, rfl⟩ := List.mem_map.mp present
    rw [find?_of_mem fields distinct field member]
    exact find?_of_mem _ (rearranged.nodup_iff.mpr distinct) (field.1, ordered field.2)
      (List.mem_map.mpr ⟨field, (List.mem_insertionSort _).mpr member, rfl⟩)
  · have absent {members : JsonObject} (missing : key ∉ members.map Prod.fst) :
        members.find? (fun field => field.1 = key) = none := by
      rw [List.find?_eq_none]
      intro field member same
      exact missing (List.mem_map.mpr ⟨field, member, by simpa using same⟩)
    rw [absent present, absent (fun member => present (rearranged.mem_iff.mp member))]
    rfl

/-- The member under a key of an ordered object, or null. -/
theorem get_ordered (fields : JsonObject) (distinct : (fields.map Prod.fst).Nodup) (key : String) :
    Json.get ((byKey fields).map (fun field => (field.1, ordered field.2))) key =
      ordered (Json.get fields key) := by
  rw [Json.get, Json.get, find?_ordered fields distinct key]
  cases fields.find? (fun field => field.1 = key) <;> rfl

/-! ## Lines -/

/-- A number is written on one line. -/
theorem readNumber_oneLine (text : List Char) (value : Json)
    (number : readNumber text = some (value, [])) : '\n' ∉ text := by
  intro broken
  obtain ⟨front, back, rfl⟩ := List.append_of_mem broken
  rw [readNumber_append front ('\n' :: back) rfl] at number
  obtain ⟨read, -, left⟩ := Option.map_eq_some_iff.mp number
  simp at left

/-- A character is escaped on one line. -/
theorem escaped_oneLine (character : Char) : '\n' ∉ (escaped character).toList := by
  unfold escaped
  split_ifs with quote backslash newline carriage tab form back control
  all_goals try decide
  · have digits : ∀ value < 16, hexDigit value ≠ '\n' := by decide
    have high := digits (character.toNat / 16) (by omega)
    have low := digits (character.toNat % 16) (by omega)
    simp [String.toList_append, high.symm, low.symm]
  · simpa using fun same : '\n' = character => newline same.symm

/-- A string is written on one line. -/
theorem quoted_oneLine (text : String) : '\n' ∉ (quoted text).toList := by
  simp only [quoted_toList, List.cons_append, List.mem_cons, List.mem_append, List.mem_flatMap,
    not_or]
  refine ⟨by decide, ?_, by decide⟩
  rintro ⟨character, -, broken⟩
  exact escaped_oneLine character broken

/-- Texts on one line each are listed on one line. -/
theorem listed_oneLine (texts : List String) (each : ∀ text ∈ texts, '\n' ∉ text.toList) :
    '\n' ∉ listed texts := by
  induction texts with
  | nil => simp [listed]
  | cons text rest inductionHypothesis =>
    obtain ⟨here, later⟩ := List.forall_mem_cons.mp each
    rw [listed_cons]
    split
    · simpa using here
    · simpa [here] using inductionHypothesis later

mutual
/-- The canonical text of a value is one line. -/
theorem canonicalJsonDumps_oneLine : ∀ value, plain value = true →
    '\n' ∉ (canonicalJsonDumps value).toList
  | .null, _ => by decide +kernel
  | .bool true, _ => by decide +kernel
  | .bool false, _ => by decide +kernel
  | .int value, _ => readNumber_oneLine _ _ (readNumber_int value)
  | .float text, written => readNumber_oneLine _ _ (readNumber_float text written)
  | .str text, _ => by
    rw [canonicalJsonDumps]
    exact quoted_oneLine text
  | .arr items, written => by
    have inside : '\n' ∉ (",".intercalate (dumpsItems items)).toList :=
      listed_oneLine _ (dumpsItems_oneLine items written)
    simp only [canonicalJsonDumps, String.toList_append, List.mem_append, not_or]
    exact ⟨⟨by decide, inside⟩, by decide⟩
  | .obj fields, written => by
    rw [plain, Bool.and_eq_true] at written
    have each := memberText_oneLine fields written.2
    have inside : '\n' ∉ (",".intercalate ((byKey fields).map memberText)).toList := by
      apply listed_oneLine
      intro text member
      obtain ⟨field, stored, rfl⟩ := List.mem_map.mp member
      exact each field ((List.mem_insertionSort _).mp stored)
    simp only [canonicalJsonDumps_obj, String.toList_append, List.mem_append, not_or]
    exact ⟨⟨by decide, inside⟩, by decide⟩

/-- The texts of items are one line each. -/
theorem dumpsItems_oneLine : ∀ items, plainItems items = true →
    ∀ text ∈ dumpsItems items, '\n' ∉ text.toList
  | [], _ => by simp [dumpsItems]
  | item :: rest, written => by
    rw [plainItems, Bool.and_eq_true] at written
    exact List.forall_mem_cons.mpr
      ⟨canonicalJsonDumps_oneLine item written.1, dumpsItems_oneLine rest written.2⟩

/-- The texts of members are one line each. -/
theorem memberText_oneLine : ∀ fields : JsonObject, plainFields fields = true →
    ∀ field ∈ fields, '\n' ∉ (memberText field).toList
  | [], _ => by simp
  | (key, value) :: rest, written => by
    rw [plainFields, Bool.and_eq_true] at written
    have broken := canonicalJsonDumps_oneLine value written.1
    have here : '\n' ∉ (memberText (key, value)).toList := by
      simp [memberText, String.toList_append, quoted_oneLine key, broken]
    exact List.forall_mem_cons.mpr ⟨here, memberText_oneLine rest written.2⟩
end

/-! ## Redacted values -/

mutual
/-- A redacted value is plain when the value is. -/
theorem plain_redacted : ∀ value, plain value = true →
    plain (Redaction.redactSensitiveValue value) = true
  | .null, _ => rfl
  | .bool _, _ => rfl
  | .int _, _ => rfl
  | .float _, written => written
  | .str _, _ => rfl
  | .arr items, written => by
    rw [Redaction.redactSensitiveValue, plain]
    exact plainItems_redacted items written
  | .obj fields, written => by
    rw [plain, Bool.and_eq_true] at written
    rw [Redaction.redactSensitiveValue, plain, Redaction.redactFields_keys, written.1,
      plainFields_redacted fields written.2]
    rfl

/-- Redacted items are plain when the items are. -/
theorem plainItems_redacted : ∀ items, plainItems items = true →
    plainItems (Redaction.redactItems items) = true
  | [], _ => rfl
  | item :: rest, written => by
    rw [plainItems, Bool.and_eq_true] at written
    rw [Redaction.redactItems, plainItems, plain_redacted item written.1,
      plainItems_redacted rest written.2]
    rfl

/-- Redacted members are plain when the members are. -/
theorem plainFields_redacted : ∀ fields, plainFields fields = true →
    plainFields (Redaction.redactFields fields) = true
  | [], _ => rfl
  | (key, value) :: rest, written => by
    rw [plainFields, Bool.and_eq_true] at written
    rw [Redaction.redactFields, plainFields, plainFields_redacted rest written.2]
    split
    · rfl
    · rw [plain_redacted value written.1]
      rfl
end

end Canonical

end TokenBank
