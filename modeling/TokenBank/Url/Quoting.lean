import Mathlib.Data.List.Basic
import Mathlib.Data.List.TakeWhile
import Mathlib.Tactic.IntervalCases
import TokenBank.Text.Utf8

/-!
# Quoting

The bytes of a text that are neither letters, digits and a few marks nor declared safe are
written as a percent sign and two hexadecimal digits. In a query a space is written as a plus
sign, and the names and values of its fields are quoted and joined. What was quoted for a
query is read back as it was, and so are the fields of a query; quoting a text whose
characters are all safe changes nothing.
-/

namespace Url

open Text

/-! ## Definitions -/

/-- The byte is a letter, a digit or one of four marks. -/
def alwaysSafe (byte : Nat) : Bool :=
  (65 ≤ byte && byte ≤ 90) || (97 ≤ byte && byte ≤ 122) || (48 ≤ byte && byte ≤ 57) ||
    byte = 45 || byte = 46 || byte = 95 || byte = 126

/-- One upper-case hexadecimal digit. -/
def hexDigit (value : Nat) : Char :=
  if value < 10 then Char.ofNat (48 + value) else Char.ofNat (55 + value)

/-- The value of a hexadecimal digit. -/
def hexValue (character : Char) : Option Nat :=
  if '0' ≤ character ∧ character ≤ '9' then some (character.toNat - 48)
  else if 'A' ≤ character ∧ character ≤ 'F' then some (character.toNat - 55)
  else if 'a' ≤ character ∧ character ≤ 'f' then some (character.toNat - 87)
  else none

/-- A byte as it is, if it is safe, or quoted. -/
def quoteByte (safe : List Char) (byte : Nat) : List Char :=
  if alwaysSafe byte || safe.any (fun character => character.toNat = byte) then [Char.ofNat byte]
  else ['%', hexDigit (byte / 16), hexDigit (byte % 16)]

/-- The quoted bytes of a text. -/
def quote (safe text : List Char) : List Char := (Utf8.encode text).flatMap (quoteByte safe)

/-- A text quoted for a query, with plus signs for spaces. -/
def quotePlus (text : List Char) : List Char :=
  if ' ' ∈ text then
    (quote [' '] text).map (fun character => if character = ' ' then '+' else character)
  else quote [] text

/-- The bytes of a text, with those that are quoted. -/
def unquoteToBytes : List Char → List Nat
  | [] => []
  | '%' :: high :: low :: rest =>
    match hexValue high, hexValue low with
    | some highValue, some lowValue => (highValue * 16 + lowValue) :: unquoteToBytes rest
    | _, _ => 37 :: unquoteToBytes (high :: low :: rest)
  | character :: rest => Utf8.encodeChar character ++ unquoteToBytes rest

/-- Unquote a text behind a run of ASCII characters, which is given backwards. Each run is
decoded by itself, and other characters are kept. -/
def unquoteFrom : List Char → List Char → List Char
  | run, [] => Utf8.decode (unquoteToBytes run.reverse)
  | run, character :: rest =>
    if character.toNat < 128 then unquoteFrom (character :: run) rest
    else Utf8.decode (unquoteToBytes run.reverse) ++ character :: unquoteFrom [] rest

/-- Unquote a text. -/
def unquote (text : List Char) : List Char := if '%' ∈ text then unquoteFrom [] text else text

/-- Unquote a text of a query, where plus signs stand for spaces. -/
def unquotePlus (text : List Char) : List Char :=
  unquote (text.map (fun character => if character = '+' then ' ' else character))

/-- What is in front of the first occurrence of a character, or the whole text. -/
def before (mark : Char) (text : List Char) : List Char :=
  text.takeWhile (fun character => character ≠ mark)

/-- What is behind the first occurrence of a character, or nothing. -/
def after (mark : Char) (text : List Char) : List Char :=
  (text.dropWhile (fun character => character ≠ mark)).drop 1

/-- The fields of a query, blank ones included. -/
def parseQsl (query : List Char) : List (List Char × List Char) :=
  ((query.splitOn '&').filter (fun field => field ≠ [])).map (fun field =>
    (unquotePlus (before '=' field), unquotePlus (after '=' field)))

/-- The query of some fields. -/
def urlencode (fields : List (List Char × List Char)) : List Char :=
  ['&'].intercalate (fields.map (fun field => quotePlus field.1 ++ '=' :: quotePlus field.2))

/-- Escapes of invalid bytes are replaced, and a percent sign without digits is kept. -/
example : parseQsl "a=%C3%A9+b&&%=%ff&=".toList =
    [(['a'], ['é', ' ', 'b']), (['%'], [Utf8.replacement]), ([], [])] := by decide +kernel

/-! ## Parts of texts -/

/-- What is checked of each character of a text holds of them. -/
theorem forall_of_all (text : List Char) (property : Char → Prop) [DecidablePred property]
    (checked : text.all (fun character => decide (property character)) = true) :
    ∀ character ∈ text, property character := by
  intro character member
  exact of_decide_eq_true (List.all_eq_true.mp checked character member)

/-- A text without a mark is in front of it as a whole. -/
theorem before_absent (mark : Char) (text : List Char) (absent : mark ∉ text) :
    before mark text = text := by
  rw [before, List.takeWhile_eq_self_iff]
  intro character member
  exact decide_eq_true fun same => absent (same ▸ member)

/-- There is nothing behind a mark that a text does not have. -/
theorem after_absent (mark : Char) (text : List Char) (absent : mark ∉ text) :
    after mark text = [] := by
  have emptied : text.dropWhile (fun character => character ≠ mark) = [] := by
    rw [List.dropWhile_eq_nil_iff]
    intro character member
    exact decide_eq_true fun same => absent (same ▸ member)
  rw [after, emptied, List.drop_nil]

/-- What is in front of the first mark. -/
theorem before_append (mark : Char) (front rest : List Char) (absent : mark ∉ front) :
    before mark (front ++ mark :: rest) = front := by
  have kept : ∀ character ∈ front, decide (character ≠ mark) = true := by
    intro character member
    exact decide_eq_true fun same => absent (same ▸ member)
  rw [before, List.takeWhile_append_of_pos kept]
  simp

/-- What is behind the first mark. -/
theorem after_append (mark : Char) (front rest : List Char) (absent : mark ∉ front) :
    after mark (front ++ mark :: rest) = rest := by
  have kept : ∀ character ∈ front, decide (character ≠ mark) = true := by
    intro character member
    exact decide_eq_true fun same => absent (same ▸ member)
  rw [after, List.dropWhile_append_of_pos kept]
  simp

/-! ## Characters of quoted texts -/

/-- A character that quoting keeps, or writes. -/
def plain (safe : List Char) (character : Char) : Bool :=
  character.toNat < 128 &&
    (alwaysSafe character.toNat || safe.contains character || character = '%')

/-- A hexadecimal digit is read as its value, and is safe. -/
theorem hexDigit_read : ∀ value < 16, hexValue (hexDigit value) = some value ∧
    (hexDigit value).toNat < 128 ∧ alwaysSafe (hexDigit value).toNat = true ∧
    hexDigit value ≠ '+' ∧ hexDigit value ≠ ' ' := by
  decide

/-- The code of the character of a byte of ASCII. -/
theorem toNat_ofNat (byte : Nat) (ascii : byte < 128) : (Char.ofNat byte).toNat = byte := by
  interval_cases byte <;> rfl

/-- Bytes that are always safe are of ASCII. -/
theorem alwaysSafe_ascii (byte : Nat) (isSafe : alwaysSafe byte = true) : byte < 128 := by
  simp only [alwaysSafe, Bool.or_eq_true, Bool.and_eq_true, decide_eq_true_eq] at isSafe
  omega

/-- A quoted byte consists of plain characters. -/
theorem quoteByte_plain (safe : List Char) (declared : ∀ character ∈ safe, character.toNat < 128)
    (byte : Nat) (isByte : byte < 256) : ∀ character ∈ quoteByte safe byte,
      plain safe character = true := by
  intro character member
  rw [quoteByte] at member
  split_ifs at member with isSafe
  · rw [List.mem_singleton.mp member]
    rcases Bool.or_eq_true_iff.mp isSafe with always | listed
    · have ascii := alwaysSafe_ascii byte always
      simp [plain, toNat_ofNat byte ascii, ascii, always]
    · obtain ⟨given, inSafe, same⟩ := List.any_eq_true.mp listed
      have code : given.toNat = byte := by simpa using same
      have isGiven : Char.ofNat byte = given := by rw [← code, Char.ofNat_toNat]
      simp [plain, isGiven, declared given inSafe, inSafe]
  · have high := hexDigit_read (byte / 16) (by omega)
    have low := hexDigit_read (byte % 16) (by omega)
    simp only [List.mem_cons, List.not_mem_nil, or_false] at member
    rcases member with rfl | rfl | rfl
    · simp [plain]
    · simp [plain, high.2.1, high.2.2.1]
    · simp [plain, low.2.1, low.2.2.1]

/-- A quoted text consists of plain characters. -/
theorem quote_plain (safe text : List Char)
    (declared : ∀ character ∈ safe, character.toNat < 128) :
    ∀ character ∈ quote safe text, plain safe character = true := by
  intro character member
  obtain ⟨byte, inBytes, written⟩ := List.mem_flatMap.mp member
  obtain ⟨given, -, isByte⟩ := List.mem_flatMap.mp inBytes
  exact quoteByte_plain safe declared byte (Utf8.encodeChar_byte given byte isByte) character written

/-- What quoting makes of one character. -/
def quoteChar (safe : List Char) (character : Char) : List Char :=
  (Utf8.encodeChar character).flatMap (quoteByte safe)

/-- A text is quoted character by character. -/
theorem quote_flatMap (safe text : List Char) : quote safe text = text.flatMap (quoteChar safe) :=
  List.flatMap_assoc

/-- A safe character is kept. -/
theorem quoteChar_safe (safe : List Char) (character : Char) (ascii : character.toNat < 128)
    (isSafe : alwaysSafe character.toNat = true ∨ character ∈ safe) :
    quoteChar safe character = [character] := by
  have kept : (alwaysSafe character.toNat ||
      safe.any (fun given => given.toNat = character.toNat)) = true := by
    rcases isSafe with always | listed
    · rw [always, Bool.true_or]
    · rw [Bool.or_eq_true_iff, List.any_eq_true]
      exact Or.inr ⟨character, listed, by simp⟩
  rw [quoteChar, Utf8.encodeChar_ascii character ascii, List.flatMap_cons, quoteByte, if_pos kept,
    Char.ofNat_toNat]
  rfl

/-- A quoted text is quoted as itself, if percent signs are safe. -/
theorem quote_quote (safe text : List Char)
    (declared : ∀ character ∈ safe, character.toNat < 128) (percent : '%' ∈ safe) :
    quote safe (quote safe text) = quote safe text := by
  have kept : ∀ character ∈ quote safe text, quoteChar safe character = [character] := by
    intro character member
    have written := quote_plain safe text declared character member
    simp only [plain, Bool.and_eq_true, Bool.or_eq_true, decide_eq_true_eq,
      List.contains_iff_mem] at written
    obtain ⟨ascii, (always | listed) | sign⟩ := written
    · exact quoteChar_safe safe character ascii (Or.inl always)
    · exact quoteChar_safe safe character ascii (Or.inr listed)
    · exact quoteChar_safe safe character ascii (Or.inr (sign ▸ percent))
  rw [quote_flatMap safe (quote safe text), List.flatMap_congr kept]
  exact List.flatMap_singleton' _

/-! ## Reading quoted texts back -/

/-- A character other than a percent sign stands for its bytes. -/
theorem unquoteToBytes_cons (character : Char) (rest : List Char) (unquoted : character ≠ '%') :
    unquoteToBytes (character :: rest) = Utf8.encodeChar character ++ unquoteToBytes rest := by
  rw [unquoteToBytes]
  intro high low later sign
  exact absurd sign unquoted

/-- A run of ASCII characters is collected. -/
theorem unquoteFrom_ascii (run text : List Char)
    (ascii : ∀ character ∈ text, character.toNat < 128) :
    unquoteFrom run text = Utf8.decode (unquoteToBytes (run.reverse ++ text)) := by
  induction text generalizing run with
  | nil => rw [unquoteFrom, List.append_nil]
  | cons character rest inductionHypothesis =>
    obtain ⟨first, later⟩ := List.forall_mem_cons.mp ascii
    rw [unquoteFrom, if_pos first, inductionHypothesis _ later, List.reverse_cons, List.append_assoc]
    rfl

/-- A text without percent signs stands for its bytes. -/
theorem unquoteToBytes_unquoted (text : List Char) (unquoted : '%' ∉ text) :
    unquoteToBytes text = Utf8.encode text := by
  induction text with
  | nil => rfl
  | cons character rest inductionHypothesis =>
    obtain ⟨first, later⟩ := not_or.mp (fun found => unquoted (List.mem_cons.mpr found))
    rw [unquoteToBytes_cons character rest (Ne.symm first), inductionHypothesis later, Utf8.encode,
      Utf8.encode, List.flatMap_cons]

/-- A text of ASCII characters is unquoted as a whole. -/
theorem unquote_ascii (text : List Char) (ascii : ∀ character ∈ text, character.toNat < 128) :
    unquote text = Utf8.decode (unquoteToBytes text) := by
  rw [unquote]
  split_ifs with quoted
  · exact unquoteFrom_ascii [] text ascii
  · rw [unquoteToBytes_unquoted text quoted, Utf8.decode_encode]

/-- A byte as it is written in a query, with a space for a plus sign. -/
def spacedByte (byte : Nat) : List Char := if byte = 32 then [' '] else quoteByte [] byte

/-- A byte of a query is read back. -/
theorem unquoteToBytes_spacedByte (byte : Nat) (isByte : byte < 256) (rest : List Char) :
    unquoteToBytes (spacedByte byte ++ rest) = byte :: unquoteToBytes rest := by
  rw [spacedByte]
  split_ifs with space
  · rw [List.singleton_append, unquoteToBytes_cons _ _ (by decide), space]
    rfl
  · rw [quoteByte]
    split_ifs with isSafe
    · have always : alwaysSafe byte = true := by simpa using isSafe
      have ascii := alwaysSafe_ascii byte always
      have unquoted : Char.ofNat byte ≠ '%' := by
        intro sign
        have code := congrArg Char.toNat sign
        rw [toNat_ofNat byte ascii] at code
        rw [code] at always
        exact absurd always (by decide)
      rw [List.singleton_append, unquoteToBytes_cons _ _ unquoted,
        Utf8.encodeChar_ascii _ (by rw [toNat_ofNat byte ascii]; exact ascii),
        toNat_ofNat byte ascii]
      rfl
    · have high := (hexDigit_read (byte / 16) (by omega)).1
      have low := (hexDigit_read (byte % 16) (by omega)).1
      simp only [List.cons_append, List.nil_append, unquoteToBytes, high, low]
      congr 1
      omega

/-- Bytes of a query are read back. -/
theorem unquoteToBytes_spaced (bytes : List Nat) (areBytes : ∀ byte ∈ bytes, byte < 256) :
    unquoteToBytes (bytes.flatMap spacedByte) = bytes := by
  induction bytes with
  | nil => rfl
  | cons byte rest inductionHypothesis =>
    obtain ⟨first, later⟩ := List.forall_mem_cons.mp areBytes
    rw [List.flatMap_cons, unquoteToBytes_spacedByte byte first, inductionHypothesis later]

/-- A byte as it is written in a query. -/
def plusByte (byte : Nat) : List Char := if byte = 32 then ['+'] else quoteByte [] byte

/-- A space that is declared safe becomes a plus sign. -/
theorem plusByte_quoted : ∀ byte < 256, (quoteByte [' '] byte).map
    (fun character => if character = ' ' then '+' else character) = plusByte byte := by
  decide +kernel

/-- A plus sign that is written stands for a space. -/
theorem spacedByte_plus : ∀ byte < 256, (plusByte byte).map
    (fun character => if character = '+' then ' ' else character) = spacedByte byte := by
  decide +kernel

/-- The bytes of a text. -/
theorem encode_bytes (text : List Char) : ∀ byte ∈ Utf8.encode text, byte < 256 := by
  intro byte member
  obtain ⟨character, -, isByte⟩ := List.mem_flatMap.mp member
  exact Utf8.encodeChar_byte character byte isByte

/-- A text has a space if its bytes do. -/
theorem space_of_byte (text : List Char) (member : 32 ∈ Utf8.encode text) : ' ' ∈ text := by
  obtain ⟨character, inText, isByte⟩ := List.mem_flatMap.mp member
  by_cases ascii : character.toNat < 128
  · rw [Utf8.encodeChar_ascii character ascii] at isByte
    have isSpace : character = ' ' := by
      rw [← Char.ofNat_toNat character, ← List.mem_singleton.mp isByte]
    exact isSpace ▸ inText
  · exact absurd (Utf8.encodeChar_beyond character ascii 32 isByte) (by decide)

/-- A text is quoted for a query byte by byte. -/
theorem quotePlus_flatMap (text : List Char) :
    quotePlus text = (Utf8.encode text).flatMap plusByte := by
  rw [quotePlus]
  split_ifs with spaced
  · rw [quote, List.map_flatMap]
    exact List.flatMap_congr fun byte member => plusByte_quoted byte (encode_bytes text byte member)
  · rw [quote]
    apply List.flatMap_congr
    intro byte member
    have other : byte ≠ 32 := fun space => spaced (space_of_byte text (space ▸ member))
    rw [plusByte, if_neg other]

/-- A text quoted for a query, with a space for each plus sign. -/
theorem spaced_quotePlus (text : List Char) :
    (quotePlus text).map (fun character => if character = '+' then ' ' else character) =
      (Utf8.encode text).flatMap spacedByte := by
  rw [quotePlus_flatMap, List.map_flatMap]
  exact List.flatMap_congr fun byte member => spacedByte_plus byte (encode_bytes text byte member)

/-- A character that is written in a query. -/
def queryCharacter (character : Char) : Bool := plain [] character || character = '+'

/-- What is quoted for a query has no other characters. -/
theorem quotePlus_characters (text : List Char) :
    ∀ character ∈ quotePlus text, queryCharacter character = true := by
  intro character member
  rw [quotePlus_flatMap] at member
  obtain ⟨byte, inBytes, written⟩ := List.mem_flatMap.mp member
  rw [plusByte] at written
  split_ifs at written
  · rw [List.mem_singleton.mp written]
    decide
  · rw [queryCharacter, quoteByte_plain [] (by simp) byte (encode_bytes text byte inBytes) character
      written, Bool.true_or]

/-- What was quoted for a query is read back as it was. -/
theorem unquotePlus_quotePlus (text : List Char) : unquotePlus (quotePlus text) = text := by
  have areBytes := encode_bytes text
  have ascii : ∀ character ∈ (Utf8.encode text).flatMap spacedByte, character.toNat < 128 := by
    intro character member
    obtain ⟨byte, inBytes, written⟩ := List.mem_flatMap.mp member
    rw [spacedByte] at written
    split_ifs at written
    · rw [List.mem_singleton.mp written]
      decide
    · have isPlain := quoteByte_plain [] (by simp) byte (areBytes byte inBytes) character written
      simp only [plain, Bool.and_eq_true, decide_eq_true_eq] at isPlain
      exact isPlain.1
  rw [unquotePlus, spaced_quotePlus, unquote_ascii _ ascii, unquoteToBytes_spaced _ areBytes,
    Utf8.decode_encode]

/-! ## Fields of a query -/

/-- The text of a field. -/
def fieldText (field : List Char × List Char) : List Char :=
  quotePlus field.1 ++ '=' :: quotePlus field.2

/-- A mark that is not written in a query is not in a quoted text. -/
theorem not_mem_quotePlus (text : List Char) (mark : Char) (unwritten : queryCharacter mark = false) :
    mark ∉ quotePlus text := by
  intro member
  rw [quotePlus_characters text mark member] at unwritten
  cases unwritten

/-- The name of a field is in front of its first equals sign, the value behind it. -/
theorem field_parts (field : List Char × List Char) :
    before '=' (fieldText field) = quotePlus field.1 ∧
      after '=' (fieldText field) = quotePlus field.2 := by
  have unwritten := not_mem_quotePlus field.1 '=' (by decide)
  exact ⟨before_append '=' _ _ unwritten, after_append '=' _ _ unwritten⟩

/-- The fields of a query are read back. -/
theorem parseQsl_urlencode (fields : List (List Char × List Char)) :
    parseQsl (urlencode fields) = fields := by
  cases fields with
  | nil => rfl
  | cons first rest =>
    have apart : ∀ text ∈ (first :: rest).map fieldText, '&' ∉ text := by
      intro text member
      obtain ⟨field, -, rfl⟩ := List.mem_map.mp member
      rw [fieldText, List.mem_append, List.mem_cons, not_or, not_or]
      exact ⟨not_mem_quotePlus _ _ (by decide), by decide, not_mem_quotePlus _ _ (by decide)⟩
    have filled : ((first :: rest).map fieldText).filter (fun field => field ≠ []) =
        (first :: rest).map fieldText := by
      rw [List.filter_eq_self]
      intro text member
      obtain ⟨field, -, rfl⟩ := List.mem_map.mp member
      simp [fieldText]
    have same : urlencode (first :: rest) = ['&'].intercalate ((first :: rest).map fieldText) := rfl
    rw [parseQsl, same, List.splitOn_intercalate '&' apart (by simp), filled, List.map_map]
    conv_rhs => rw [← List.map_id (first :: rest)]
    apply List.map_congr_left
    intro field _
    rw [Function.comp_apply, (field_parts field).1, (field_parts field).2, unquotePlus_quotePlus,
      unquotePlus_quotePlus]
    rfl

/-- The characters of joined texts are those of the texts, and the mark between them. -/
theorem mem_intercalate (mark : Char) (texts : List (List Char)) (character : Char)
    (member : character ∈ [mark].intercalate texts) :
    character = mark ∨ ∃ text ∈ texts, character ∈ text := by
  induction texts with
  | nil => cases member
  | cons text rest inductionHypothesis =>
    cases rest with
    | nil => exact Or.inr ⟨text, List.mem_cons_self, by rwa [List.intercalate_singleton] at member⟩
    | cons next later =>
      rw [List.intercalate_cons_cons, List.mem_append, List.mem_append, List.mem_singleton] at member
      rcases member with (here | between) | behind
      · exact Or.inr ⟨text, List.mem_cons_self, here⟩
      · exact Or.inl between
      · cases inductionHypothesis behind with
        | inl between => exact Or.inl between
        | inr found =>
          obtain ⟨other, inRest, here⟩ := found
          exact Or.inr ⟨other, List.mem_cons_of_mem _ inRest, here⟩

/-- The characters of a query. -/
theorem urlencode_characters (fields : List (List Char × List Char)) :
    ∀ character ∈ urlencode fields,
      queryCharacter character = true ∨ character = '&' ∨ character = '=' := by
  intro character member
  cases mem_intercalate '&' _ character member with
  | inl between => exact Or.inr (Or.inl between)
  | inr found =>
    obtain ⟨text, inTexts, here⟩ := found
    obtain ⟨field, -, rfl⟩ := List.mem_map.mp inTexts
    rcases List.mem_append.mp here with name | behind
    · exact Or.inl (quotePlus_characters _ character name)
    · cases List.mem_cons.mp behind with
      | inl sign => exact Or.inr (Or.inr sign)
      | inr value => exact Or.inl (quotePlus_characters _ character value)

/-- Plain characters are shown, if those declared safe are. -/
theorem plain_shown (safe : List Char) (shown : ∀ character ∈ safe, 32 < character.toNat)
    (character : Char) (isPlain : plain safe character = true) :
    32 < character.toNat ∧ character.toNat < 128 := by
  simp only [plain, Bool.and_eq_true, Bool.or_eq_true, decide_eq_true_eq,
    List.contains_iff_mem] at isPlain
  obtain ⟨ascii, (always | listed) | sign⟩ := isPlain
  · simp only [alwaysSafe, Bool.or_eq_true, Bool.and_eq_true, decide_eq_true_eq] at always
    omega
  · exact ⟨shown character listed, ascii⟩
  · rw [sign]
    decide

/-- The characters of a query are shown. -/
theorem urlencode_shown (fields : List (List Char × List Char)) :
    ∀ character ∈ urlencode fields, 32 < character.toNat ∧ character.toNat < 128 := by
  intro character member
  rcases urlencode_characters fields character member with written | rfl | rfl
  · cases Bool.or_eq_true_iff.mp written with
    | inl isPlain => exact plain_shown [] (by simp) character isPlain
    | inr sign =>
      rw [of_decide_eq_true sign]
      decide
  · decide
  · decide

end Url
