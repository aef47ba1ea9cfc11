import TokenBank.Core.Rereading

/-!
# JSON texts in ASCII

A report is written with the members of its objects in the order of their keys, a blank behind each
comma and colon, and every character escaped that is not a printable one of ASCII. Texts may be
written in another way than they are read: whatever stands between the quotes, the value read back
is the one with each text replaced by what is read for it.
-/

namespace TokenBank

namespace Canonical

/-! ## Escapes -/

/-- Four lower-case hexadecimal digits. -/
def hexDigits (code : Nat) : List Char :=
  [hexDigit (code / 4096), hexDigit (code / 256 % 16), hexDigit (code / 16 % 16),
    hexDigit (code % 16)]

/-- The escape of a number of 16 bits. -/
def unitEscape (code : Nat) : List Char := '\\' :: 'u' :: hexDigits code

/-- One character inside a JSON string in ASCII. A character beyond 16 bits is written as a
surrogate pair. -/
def asciiEscaped (character : Char) : List Char :=
  let code := character.toNat
  if character = '"' then ['\\', '"']
  else if character = '\\' then ['\\', '\\']
  else if character = '\n' then ['\\', 'n']
  else if character = '\r' then ['\\', 'r']
  else if character = '\t' then ['\\', 't']
  else if code = 12 then ['\\', 'f']
  else if code = 8 then ['\\', 'b']
  else if 32 ≤ code ∧ code ≤ 126 then [character]
  else if code < 0x10000 then unitEscape code
  else unitEscape (0xD800 + (code - 0x10000) / 0x400) ++
    unitEscape (0xDC00 + (code - 0x10000) % 0x400)

/-- A text between the quotes of a JSON string in ASCII. -/
def asciiText (text : List Char) : List Char := text.flatMap asciiEscaped

/-- A text is written character by character. -/
theorem asciiText_cons (character : Char) (rest : List Char) :
    asciiText (character :: rest) = asciiEscaped character ++ asciiText rest :=
  List.flatMap_cons

/-- Hexadecimal digits name the number they were written for. -/
theorem codeUnit_hexDigits (code : Nat) (small : code < 0x10000) :
    codeUnit (hexDigit (code / 4096)) (hexDigit (code / 256 % 16)) (hexDigit (code / 16 % 16))
      (hexDigit (code % 16)) = some code := by
  have first := hexValue_hexDigit (code / 4096) (by omega)
  have second := hexValue_hexDigit (code / 256 % 16) (by omega)
  have third := hexValue_hexDigit (code / 16 % 16) (by omega)
  have fourth := hexValue_hexDigit (code % 16) (by omega)
  have whole : ((code / 4096 * 16 + code / 256 % 16) * 16 + code / 16 % 16) * 16 + code % 16 =
      code := by omega
  simp [codeUnit, first, second, third, fourth, whole]

/-- Hexadecimal digits name a character unless they write half of a surrogate pair. -/
theorem unicodeEscape_codeUnit (first second third fourth : Char) :
    unicodeEscape first second third fourth = (codeUnit first second third fourth).bind
      (fun code => if 0xD800 ≤ code ∧ code ≤ 0xDFFF then none else some (Char.ofNat code)) := by
  unfold unicodeEscape codeUnit
  cases hexValue first <;> cases hexValue second <;> cases hexValue third <;>
    cases hexValue fourth <;> rfl

/-- The two halves of a surrogate pair are read as one character. -/
theorem readString_pair (high low : Nat) (character : Char) (rest : List Char)
    (upper : 0xD800 ≤ high ∧ high ≤ 0xDBFF) (lower : 0xDC00 ≤ low ∧ low ≤ 0xDFFF)
    (named : Char.ofNat (0x10000 + (high - 0xD800) * 0x400 + (low - 0xDC00)) = character) :
    readString (unitEscape high ++ unitEscape low ++ rest) =
      (readString rest).map (withCharacter character) := by
  have highUnit := codeUnit_hexDigits high (by omega)
  have lowUnit := codeUnit_hexDigits low (by omega)
  have half : unicodeEscape (hexDigit (high / 4096)) (hexDigit (high / 256 % 16))
      (hexDigit (high / 16 % 16)) (hexDigit (high % 16)) = none := by
    rw [unicodeEscape_codeUnit, highUnit, Option.bind_some, if_pos (by omega)]
  have paired : surrogatePair high low = some character := by
    rw [surrogatePair, if_pos (by omega), named]
  simp only [unitEscape, hexDigits, List.cons_append, List.nil_append]
  rw [readString.eq_def]
  simp only [half, highUnit, lowUnit, Option.bind_some, paired]

/-- An escaped character reads as itself. -/
theorem readString_asciiEscaped (character : Char) (rest : List Char) :
    readString (asciiEscaped character ++ rest) = (readString rest).map (withCharacter character) := by
  have valid : character.toNat < 0xD800 ∨ 0xDFFF < character.toNat ∧ character.toNat < 0x110000 :=
    character.valid
  unfold asciiEscaped
  dsimp only
  split_ifs with quote backslash newline carriage tab form back printable short
  · subst quote
    simp [readString, simpleEscape]
  · subst backslash
    simp [readString, simpleEscape]
  · subst newline
    simp [readString, simpleEscape]
  · subst carriage
    simp [readString, simpleEscape]
  · subst tab
    simp [readString, simpleEscape]
  · have same : character = Char.ofNat 12 := (form ▸ Char.ofNat_toNat character).symm
    subst same
    simp [readString, simpleEscape]
  · have same : character = Char.ofNat 8 := (back ▸ Char.ofNat_toNat character).symm
    subst same
    simp [readString, simpleEscape]
  · rw [List.singleton_append, readString.eq_def]
    split
    · simp_all
    · simp_all
    · simp_all
    · simp_all
    · rename_i same
      obtain ⟨rfl, rfl⟩ := List.cons.inj same
      rw [if_neg]
      rintro (control | escape)
      · omega
      · exact backslash escape
  · have named : unicodeEscape (hexDigit (character.toNat / 4096))
        (hexDigit (character.toNat / 256 % 16)) (hexDigit (character.toNat / 16 % 16))
        (hexDigit (character.toNat % 16)) = some character := by
      rw [unicodeEscape_codeUnit, codeUnit_hexDigits _ short, Option.bind_some,
        if_neg (by omega), Char.ofNat_toNat]
    simp only [unitEscape, hexDigits, List.cons_append, List.nil_append]
    rw [readString_unicode _ _ _ _ _ _ named]
  · apply readString_pair _ _ _ _ (by omega) (by omega)
    have whole : 0x10000 + (0xD800 + (character.toNat - 0x10000) / 0x400 - 0xD800) * 0x400 +
        (0xDC00 + (character.toNat - 0x10000) % 0x400 - 0xDC00) = character.toNat := by omega
    rw [whole, Char.ofNat_toNat]

/-- A text reads as itself. -/
theorem readString_asciiText (text rest : List Char) :
    readString (asciiText text ++ '"' :: rest) = some (text, rest) := by
  induction text with
  | nil => simp [asciiText, readString]
  | cons character text inductionHypothesis =>
    rw [asciiText_cons, List.append_assoc, readString_asciiEscaped, inductionHypothesis]
    rfl

/-! ## Values -/

/-- What follows an item or a member: nothing behind the last one, and otherwise a comma and a blank
in front of the others. -/
def following (last : Bool) (others : List Char) : List Char :=
  if last then [] else ',' :: ' ' :: others

section Written

variable (write : String → List Char)

mutual
/-- A value as it stands, with each text written in some way between its quotes. -/
def writeValue : Json → List Char
  | .null => ['n', 'u', 'l', 'l']
  | .bool true => ['t', 'r', 'u', 'e']
  | .bool false => ['f', 'a', 'l', 's', 'e']
  | .int value => (toString value).toList
  | .float text => text.toList
  | .str text => '"' :: (write text ++ ['"'])
  | .arr items => '[' :: (writeItems items ++ [']'])
  | .obj fields => '\x7b' :: (writeMembers fields ++ ['\x7d'])

/-- The items of an array, a comma and a blank between two of them. -/
def writeItems : List Json → List Char
  | [] => []
  | item :: rest => writeValue item ++ following rest.isEmpty (writeItems rest)

/-- The members of an object, a comma and a blank between two of them. -/
def writeMembers : List (String × Json) → List Char
  | [] => []
  | (key, value) :: rest =>
    '"' :: (write key ++ '"' :: ':' :: ' ' :: (writeValue value ++
      following rest.isEmpty (writeMembers rest)))
end

end Written

/-- The text of a value in ASCII: members by key, with blanks behind commas and colons. -/
def jsonDumps (value : Json) : String :=
  String.ofList (writeValue (fun text => asciiText text.toList) (ordered value))

/-- Keys come out sorted at every depth, and a letter beyond ASCII is escaped. -/
example : jsonDumps (.obj [("b", .arr [.int 1, .str "\u00e9"]), ("a", .null)]) =
    "\x7b\"a\": null, \"b\": [1, \"\\u00e9\"]\x7d" := by decide +kernel

/-! ## Values read back -/

section Reread

variable (read : String → Option String)

mutual
/-- A value with each text read in some way, and of two members with one key the last. -/
def reread : Json → Option Json
  | .null => some .null
  | .bool value => some (.bool value)
  | .int value => some (.int value)
  | .float text => some (.float text)
  | .str text => (read text).map Json.str
  | .arr items => (rereadItems items).map Json.arr
  | .obj fields => (rereadMembers fields).map (fun members => .obj (objectOf members))

/-- Items with each text read. -/
def rereadItems : List Json → Option (List Json)
  | [] => some []
  | item :: rest =>
    (reread item).bind (fun item => (rereadItems rest).map (fun items => item :: items))

/-- Members with each text and each key read. -/
def rereadMembers : List (String × Json) → Option (List (String × Json))
  | [] => some []
  | (key, value) :: rest =>
    (read key).bind (fun key => (reread value).bind (fun value =>
      (rereadMembers rest).map (fun members => (key, value) :: members)))
end

end Reread

/-- A blank in front of a value is skipped. -/
theorem readValue_blank (fuel : Nat) (text : List Char) :
    readValue fuel (' ' :: text) = readValue fuel text := by
  cases fuel with
  | zero => rw [readValue, readValue]
  | succ fuel =>
    have skipped : afterBlanks (' ' :: text) = afterBlanks text := rfl
    rw [readValue, readValue, skipped]

/-- A blank in front of an item is skipped. -/
theorem readItems_blank (fuel : Nat) (text : List Char) :
    readItems fuel (' ' :: text) = readItems fuel text := by
  cases fuel with
  | zero => rw [readItems, readItems]
  | succ fuel => rw [readItems, readItems, readValue_blank]

/-- A blank in front of a member is skipped. -/
theorem readMembers_blank (fuel : Nat) (text : List Char) :
    readMembers fuel (' ' :: text) = readMembers fuel text := by
  cases fuel with
  | zero => rw [readMembers, readMembers]
  | succ fuel =>
    have skipped : afterBlanks (' ' :: text) = afterBlanks text := rfl
    rw [readMembers, readMembers, skipped]

section Readers

variable {write : String → List Char} {read : String → Option String}

/-- A text that was written is read in some way, whatever follows its closing quote. -/
def ReadAs (write : String → List Char) (read : String → Option String) : Prop :=
  ∀ text rest, readString (write text ++ '"' :: rest) =
    (read text).map (fun found => (found.toList, rest))

/-- The text of a value starts with a character that is neither a blank nor a closing bracket. -/
theorem writeValue_start (write : String → List Char) (value : Json)
    (written : plain value = true) :
    ∃ head tail, writeValue write value = head :: tail ∧ jsonBlank head = false ∧ head ≠ ']' := by
  have number (text : List Char) (found : Json × List Char)
      (isNumber : readNumber text = some found) :
      ∃ head tail, text = head :: tail ∧ jsonBlank head = false ∧ head ≠ ']' := by
    obtain ⟨head, tail, starts, kind⟩ := readNumber_start text found isNumber
    obtain ⟨visible, -, -, -, -, -, -, bracket⟩ := number_unlike head kind
    exact ⟨head, tail, starts, visible, bracket⟩
  cases value with
  | null => exact ⟨_, _, rfl, by decide, by decide⟩
  | bool value => cases value <;> exact ⟨_, _, rfl, by decide, by decide⟩
  | int value => exact number _ _ (readNumber_int value)
  | float text => exact number _ _ (readNumber_float text written)
  | str text => exact ⟨_, _, rfl, by decide, by decide⟩
  | arr items => exact ⟨_, _, rfl, by decide, by decide⟩
  | obj fields => exact ⟨_, _, rfl, by decide, by decide⟩

mutual
/-- A written value is read back as its texts are, whatever closes it. -/
theorem readValue_written (reads : ReadAs write read) : ∀ value, plain value = true →
    ∀ fuel rest, (writeValue write value).length ≤ fuel → closes rest = true →
      readValue fuel (writeValue write value ++ rest) =
        (reread read value).map (fun found => (found, rest))
  | .null, _ => fun fuel rest enough _ => by
    obtain ⟨fuel, rfl⟩ := Nat.exists_eq_succ_of_ne_zero (Nat.ne_zero_of_lt enough)
    rfl
  | .bool true, _ => fun fuel rest enough _ => by
    obtain ⟨fuel, rfl⟩ := Nat.exists_eq_succ_of_ne_zero (Nat.ne_zero_of_lt enough)
    rfl
  | .bool false, _ => fun fuel rest enough _ => by
    obtain ⟨fuel, rfl⟩ := Nat.exists_eq_succ_of_ne_zero (Nat.ne_zero_of_lt enough)
    rfl
  | .int value, written => fun fuel rest enough closing => by
    obtain ⟨head, tail, starts, -⟩ := writeValue_start write (.int value) written
    rw [starts, List.length_cons] at enough
    obtain ⟨fuel, rfl⟩ := Nat.exists_eq_succ_of_ne_zero (Nat.ne_zero_of_lt enough)
    exact readValue_number fuel _ rest _ (readNumber_int value) closing
  | .float text, written => fun fuel rest enough closing => by
    obtain ⟨head, tail, starts, -⟩ := writeValue_start write (.float text) written
    rw [starts, List.length_cons] at enough
    obtain ⟨fuel, rfl⟩ := Nat.exists_eq_succ_of_ne_zero (Nat.ne_zero_of_lt enough)
    exact readValue_number fuel _ rest _ (readNumber_float text written) closing
  | .str text, _ => fun fuel rest enough _ => by
    rw [writeValue, List.length_cons] at enough
    obtain ⟨fuel, rfl⟩ := Nat.exists_eq_succ_of_ne_zero (Nat.ne_zero_of_lt enough)
    rw [writeValue, List.cons_append, readValue, afterBlanks_visible '"' _ (by decide)]
    simp only
    rw [List.append_assoc, List.singleton_append, reads, reread]
    cases read text <;> simp
  | .arr items, written => fun fuel rest enough _ => by
    rw [writeValue, List.length_cons, List.length_append, List.length_singleton] at enough
    obtain ⟨fuel, rfl⟩ := Nat.exists_eq_succ_of_ne_zero (Nat.ne_zero_of_lt enough)
    rw [writeValue, List.cons_append, readValue, afterBlanks_visible '[' _ (by decide)]
    simp only
    cases items with
    | nil => rfl
    | cons item others =>
      have plainItems : plainItems (item :: others) = true := by simpa [plain] using written
      obtain ⟨head, tail, starts, visible, opens⟩ := writeValue_start write item
        ((plainItems_iff (item :: others)).mp plainItems item (by simp))
      have first : (afterBlanks (writeItems write (item :: others) ++ [']'] ++ rest)).head? ≠
          some ']' := by
        rw [writeItems, starts, List.cons_append, List.cons_append, List.cons_append,
          afterBlanks_visible head _ visible, List.head?_cons, ne_eq, Option.some.injEq]
        exact opens
      rw [if_neg first, List.append_assoc, List.singleton_append,
        readItems_written reads (item :: others) plainItems (by simp) fuel rest (by omega), reread]
      cases rereadItems read (item :: others) <;> rfl
  | .obj fields, written => fun fuel rest enough _ => by
    rw [plain, Bool.and_eq_true] at written
    rw [writeValue, List.length_cons, List.length_append, List.length_singleton] at enough
    obtain ⟨fuel, rfl⟩ := Nat.exists_eq_succ_of_ne_zero (Nat.ne_zero_of_lt enough)
    rw [writeValue, List.cons_append, readValue, afterBlanks_visible '\x7b' _ (by decide)]
    simp only
    cases fields with
    | nil => rfl
    | cons field others =>
      have first : (afterBlanks (writeMembers write (field :: others) ++ ['\x7d'] ++ rest)).head? ≠
          some '\x7d' := by
        rw [writeMembers, List.cons_append, List.cons_append, afterBlanks_visible '"' _ (by decide),
          List.head?_cons]
        decide
      rw [if_neg first, List.append_assoc, List.singleton_append,
        readMembers_written reads (field :: others) written.2 (by simp) fuel rest (by omega), reread]
      cases rereadMembers read (field :: others) <;> rfl

/-- Written items are read back one after the other. -/
theorem readItems_written (reads : ReadAs write read) : ∀ items, plainItems items = true →
    items ≠ [] → ∀ fuel rest, (writeItems write items).length < fuel →
      readItems fuel (writeItems write items ++ ']' :: rest) =
        (rereadItems read items).map (fun found => (found, rest))
  | [], _ => fun some => absurd rfl some
  | item :: others, written => fun _ fuel rest enough => by
    rw [plainItems, Bool.and_eq_true] at written
    obtain ⟨fuel, rfl⟩ := Nat.exists_eq_succ_of_ne_zero (Nat.ne_zero_of_lt enough)
    rw [writeItems, List.length_append] at enough
    rw [writeItems, List.append_assoc, readItems, rereadItems]
    cases others with
    | nil =>
      rw [readValue_written reads item written.1 fuel _ (by omega) (by rfl)]
      cases reread read item with
      | none => rfl
      | some found => rfl
    | cons next others =>
      have more : (following (next :: others).isEmpty (writeItems write (next :: others))) =
          ',' :: ' ' :: writeItems write (next :: others) := rfl
      rw [more, List.length_cons, List.length_cons] at enough
      rw [more, List.cons_append, List.cons_append,
        readValue_written reads item written.1 fuel _ (by omega) (by rfl)]
      cases reread read item with
      | none => rfl
      | some found =>
        simp only [Option.map_some, Option.bind_some]
        rw [afterBlanks_visible ',' _ (by decide)]
        simp only
        rw [readItems_blank, readItems_written reads (next :: others) written.2 (by simp) fuel rest
          (by omega)]
        cases rereadItems read (next :: others) <;> rfl

/-- Written members are read back one after the other. -/
theorem readMembers_written (reads : ReadAs write read) : ∀ fields, plainFields fields = true →
    fields ≠ [] → ∀ fuel rest, (writeMembers write fields).length < fuel →
      readMembers fuel (writeMembers write fields ++ '\x7d' :: rest) =
        (rereadMembers read fields).map (fun found => (found, rest))
  | [], _ => fun some => absurd rfl some
  | (key, value) :: others, written => fun _ fuel rest enough => by
    rw [plainFields, Bool.and_eq_true] at written
    obtain ⟨fuel, rfl⟩ := Nat.exists_eq_succ_of_ne_zero (Nat.ne_zero_of_lt enough)
    rw [writeMembers] at enough
    simp only [List.length_cons, List.length_append] at enough
    rw [writeMembers, List.cons_append, readMembers, afterBlanks_visible '"' _ (by decide),
      rereadMembers]
    simp only
    rw [List.append_assoc, List.cons_append, reads]
    cases read key with
    | none => rfl
    | some known =>
      simp only [Option.map_some, Option.bind_some, List.cons_append]
      rw [afterBlanks_visible ':' _ (by decide)]
      simp only [String.ofList_toList]
      rw [readValue_blank, List.append_assoc]
      cases others with
      | nil =>
        rw [readValue_written reads value written.1 fuel _ (by omega) (by rfl)]
        cases reread read value with
        | none => rfl
        | some found => rfl
      | cons next others =>
        have more : (following (next :: others).isEmpty (writeMembers write (next :: others))) =
            ',' :: ' ' :: writeMembers write (next :: others) := rfl
        rw [more, List.length_cons, List.length_cons] at enough
        rw [more, List.cons_append, List.cons_append,
          readValue_written reads value written.1 fuel _ (by omega) (by rfl)]
        cases reread read value with
        | none => rfl
        | some found =>
          simp only [Option.map_some, Option.bind_some]
          rw [afterBlanks_visible ',' _ (by decide)]
          simp only
          rw [readMembers_blank, readMembers_written reads (next :: others) written.2 (by simp) fuel
            rest (by omega)]
          cases rereadMembers read (next :: others) <;> rfl
end

/-- A written value is read as its texts are. -/
theorem jsonLoads_written (reads : ReadAs write read) (value : Json) (written : plain value = true) :
    jsonLoads (String.ofList (writeValue write value)) = reread read value := by
  have found := readValue_written reads value written ((writeValue write value).length + 1) []
    (Nat.le_succ _) rfl
  rw [List.append_nil] at found
  rw [jsonLoads, String.toList_ofList, found]
  cases reread read value <;> rfl

end Readers

/-! ## Texts and keys -/

mutual
/-- The texts in a value, keys apart. -/
def texts : Json → List String
  | .str text => [text]
  | .arr items => textsOfItems items
  | .obj fields => textsOfMembers fields
  | _ => []

/-- The texts in items. -/
def textsOfItems : List Json → List String
  | [] => []
  | item :: rest => texts item ++ textsOfItems rest

/-- The texts in the values of members. -/
def textsOfMembers : List (String × Json) → List String
  | [] => []
  | (_, value) :: rest => texts value ++ textsOfMembers rest
end

mutual
/-- The keys of the objects in a value. -/
def keys : Json → List String
  | .arr items => keysOfItems items
  | .obj fields => keysOfMembers fields
  | _ => []

/-- The keys of the objects in items. -/
def keysOfItems : List Json → List String
  | [] => []
  | item :: rest => keys item ++ keysOfItems rest

/-- The keys of members and of the objects in their values. -/
def keysOfMembers : List (String × Json) → List String
  | [] => []
  | (key, value) :: rest => key :: (keys value ++ keysOfMembers rest)
end

section Texts

variable (change : String → String)

mutual
/-- A value of the same shape and with the same keys, each text of it changed. -/
def mapTexts : Json → Json
  | .null => .null
  | .bool value => .bool value
  | .int value => .int value
  | .float text => .float text
  | .str text => .str (change text)
  | .arr items => .arr (mapItems items)
  | .obj fields => .obj (mapMembers fields)

/-- Items with each text changed. -/
def mapItems : List Json → List Json
  | [] => []
  | item :: rest => mapTexts item :: mapItems rest

/-- Members with each text of their values changed. -/
def mapMembers : List (String × Json) → List (String × Json)
  | [] => []
  | (key, value) :: rest => (key, mapTexts value) :: mapMembers rest
end

end Texts

/-- The texts in items are those of each item. -/
theorem textsOfItems_flatMap (items : List Json) : textsOfItems items = items.flatMap texts := by
  induction items with
  | nil => rfl
  | cons item rest inductionHypothesis =>
    rw [textsOfItems, inductionHypothesis, List.flatMap_cons]

/-- The texts in members are those of each value. -/
theorem textsOfMembers_flatMap (fields : List (String × Json)) :
    textsOfMembers fields = fields.flatMap (fun field => texts field.2) := by
  induction fields with
  | nil => rfl
  | cons field rest inductionHypothesis =>
    rw [textsOfMembers, inductionHypothesis, List.flatMap_cons]

/-- The keys in items are those of each item. -/
theorem keysOfItems_flatMap (items : List Json) : keysOfItems items = items.flatMap keys := by
  induction items with
  | nil => rfl
  | cons item rest inductionHypothesis =>
    rw [keysOfItems, inductionHypothesis, List.flatMap_cons]

/-- The keys in members are the key of each with those of its value. -/
theorem keysOfMembers_flatMap (fields : List (String × Json)) :
    keysOfMembers fields = fields.flatMap (fun field => field.1 :: keys field.2) := by
  induction fields with
  | nil => rfl
  | cons field rest inductionHypothesis =>
    rw [keysOfMembers, inductionHypothesis, List.flatMap_cons, List.cons_append]

/-- Items are changed one by one. -/
theorem mapItems_map (change : String → String) (items : List Json) :
    mapItems change items = items.map (mapTexts change) := by
  induction items with
  | nil => rfl
  | cons item rest inductionHypothesis => rw [mapItems, inductionHypothesis, List.map_cons]

/-- Members are changed one by one. -/
theorem mapMembers_map (change : String → String) (fields : List (String × Json)) :
    mapMembers change fields = fields.map (fun field => (field.1, mapTexts change field.2)) := by
  induction fields with
  | nil => rfl
  | cons field rest inductionHypothesis => rw [mapMembers, inductionHypothesis, List.map_cons]

mutual
/-- Ordering a value neither adds nor takes texts and keys. -/
theorem ordered_contents : ∀ value,
    (∀ text, text ∈ texts (ordered value) ↔ text ∈ texts value) ∧
      ∀ key, key ∈ keys (ordered value) ↔ key ∈ keys value
  | .null => by simp [ordered]
  | .bool _ => by simp [ordered]
  | .int _ => by simp [ordered]
  | .float _ => by simp [ordered]
  | .str _ => by simp [ordered]
  | .arr items => by
    have each := ordered_contents_items items
    simp only [ordered, texts, keys, orderedItems_map, textsOfItems_flatMap, keysOfItems_flatMap,
      List.mem_flatMap, List.mem_map, exists_exists_and_eq_and]
    constructor
    · intro text
      exact exists_congr fun item => and_congr_right fun member => (each item member).1 text
    · intro key
      exact exists_congr fun item => and_congr_right fun member => (each item member).2 key
  | .obj fields => by
    have each := ordered_contents_members fields
    have same := List.perm_insertionSort
      (fun left right : String × Json => left.1 ≤ right.1) fields
    rw [ordered_obj]
    simp only [texts, keys, textsOfMembers_flatMap, keysOfMembers_flatMap, List.mem_flatMap,
      List.mem_map, exists_exists_and_eq_and, List.mem_cons, byKey, same.mem_iff]
    constructor
    · intro text
      exact exists_congr fun field => and_congr_right fun member => (each field member).1 text
    · intro key
      exact exists_congr fun field => and_congr_right fun member =>
        or_congr_right ((each field member).2 key)

/-- Ordering items neither adds nor takes texts and keys. -/
theorem ordered_contents_items : ∀ items : List Json, ∀ item ∈ items,
    (∀ text, text ∈ texts (ordered item) ↔ text ∈ texts item) ∧
      ∀ key, key ∈ keys (ordered item) ↔ key ∈ keys item
  | [] => by simp
  | item :: rest =>
    List.forall_mem_cons.mpr ⟨ordered_contents item, ordered_contents_items rest⟩

/-- Ordering members neither adds nor takes texts and keys. -/
theorem ordered_contents_members : ∀ fields : List (String × Json), ∀ field ∈ fields,
    (∀ text, text ∈ texts (ordered field.2) ↔ text ∈ texts field.2) ∧
      ∀ key, key ∈ keys (ordered field.2) ↔ key ∈ keys field.2
  | [] => by simp
  | (_, value) :: rest =>
    List.forall_mem_cons.mpr ⟨ordered_contents value, ordered_contents_members rest⟩
end

mutual
/-- Texts are changed alike before and after ordering. -/
theorem mapTexts_ordered (change : String → String) : ∀ value,
    mapTexts change (ordered value) = ordered (mapTexts change value)
  | .null => rfl
  | .bool _ => rfl
  | .int _ => rfl
  | .float _ => rfl
  | .str _ => rfl
  | .arr items => by
    rw [ordered, mapTexts, mapTexts, ordered, mapItems_map, mapItems_map, orderedItems_map,
      orderedItems_map, List.map_map, List.map_map, List.map_congr_left]
    exact mapTexts_ordered_items change items
  | .obj fields => by
    rw [ordered_obj, mapTexts, mapTexts, ordered_obj, mapMembers_map, mapMembers_map, byKey_map,
      List.map_map, List.map_map, List.map_congr_left]
    intro field member
    have same := List.perm_insertionSort
      (fun left right : String × Json => left.1 ≤ right.1) fields
    exact congrArg (Prod.mk field.1)
      (mapTexts_ordered_members change fields field (same.mem_iff.mp member))

/-- The texts of items are changed alike before and after ordering. -/
theorem mapTexts_ordered_items (change : String → String) : ∀ items : List Json, ∀ item ∈ items,
    mapTexts change (ordered item) = ordered (mapTexts change item)
  | [] => by simp
  | item :: rest =>
    List.forall_mem_cons.mpr ⟨mapTexts_ordered change item, mapTexts_ordered_items change rest⟩

/-- The texts of members are changed alike before and after ordering. -/
theorem mapTexts_ordered_members (change : String → String) :
    ∀ fields : List (String × Json), ∀ field ∈ fields,
      mapTexts change (ordered field.2) = ordered (mapTexts change field.2)
  | [] => by simp
  | (_, value) :: rest =>
    List.forall_mem_cons.mpr ⟨mapTexts_ordered change value, mapTexts_ordered_members change rest⟩
end

mutual
/-- The texts in a changed value are the changed ones. -/
theorem texts_mapTexts (change : String → String) : ∀ value,
    texts (mapTexts change value) = (texts value).map change
  | .null => rfl
  | .bool _ => rfl
  | .int _ => rfl
  | .float _ => rfl
  | .str _ => rfl
  | .arr items => textsOfItems_mapItems change items
  | .obj fields => textsOfMembers_mapMembers change fields

/-- The texts in changed items are the changed ones. -/
theorem textsOfItems_mapItems (change : String → String) : ∀ items,
    textsOfItems (mapItems change items) = (textsOfItems items).map change
  | [] => rfl
  | item :: rest => by
    rw [mapItems, textsOfItems, textsOfItems, List.map_append, texts_mapTexts change item,
      textsOfItems_mapItems change rest]

/-- The texts in changed members are the changed ones. -/
theorem textsOfMembers_mapMembers (change : String → String) : ∀ fields,
    textsOfMembers (mapMembers change fields) = (textsOfMembers fields).map change
  | [] => rfl
  | (_, value) :: rest => by
    rw [mapMembers, textsOfMembers, textsOfMembers, List.map_append, texts_mapTexts change value,
      textsOfMembers_mapMembers change rest]
end

section Changes

variable {change : String → String} {read : String → Option String}

/-- Members whose texts are changed keep their keys. -/
theorem mapMembers_keys (fields : List (String × Json)) :
    (mapMembers change fields).map Prod.fst = fields.map Prod.fst := by
  rw [mapMembers_map, List.map_map]
  rfl

/-- There are as many members after reading as before. -/
theorem rereadMembers_length (fields members : List (String × Json))
    (reading : rereadMembers read fields = some members) : members.length = fields.length := by
  induction fields generalizing members with
  | nil =>
    cases reading
    rfl
  | cons field rest inductionHypothesis =>
    simp only [rereadMembers, Option.bind_eq_some_iff, Option.map_eq_some_iff] at reading
    obtain ⟨key, -, value, -, members, later, rfl⟩ := reading
    rw [List.length_cons, List.length_cons, inductionHypothesis members later]

/-- An object with as many members as it was given has the members it was given. -/
theorem objectOf_full (members : List (String × Json))
    (full : members.length ≤ (objectOf members).length) : objectOf members = members := by
  have bound (earlier later : List (String × Json)) :
      (later.foldl putMember earlier).length ≤ earlier.length + later.length := by
    induction later generalizing earlier with
    | nil => simp
    | cons field rest inductionHypothesis =>
      have here := inductionHypothesis (putMember earlier field)
      have grown : (putMember earlier field).length ≤ earlier.length + 1 := by
        unfold putMember
        split <;> simp
      rw [List.foldl_cons, List.length_cons]
      omega
  have kept (earlier later : List (String × Json))
      (full : earlier.length + later.length ≤ (later.foldl putMember earlier).length) :
      later.foldl putMember earlier = earlier ++ later := by
    induction later generalizing earlier with
    | nil => simp
    | cons field rest inductionHypothesis =>
      rw [List.foldl_cons] at full ⊢
      have later_bound := bound (putMember earlier field) rest
      rw [List.length_cons] at full
      by_cases known : field.1 ∈ earlier.map Prod.fst
      · rw [putMember, if_pos known, List.length_map] at later_bound
        rw [putMember, if_pos known] at full
        omega
      · rw [putMember, if_neg known] at full ⊢
        rw [inductionHypothesis (earlier ++ [field])
          (by rw [List.length_append, List.length_singleton]; omega), List.append_assoc,
          List.singleton_append]
  exact kept [] members (by simpa [objectOf] using full)

mutual
/-- A value is read back with its texts changed exactly if each text is read as it is changed and
each key as it is. -/
theorem reread_eq_iff : ∀ value, plain value = true →
    (reread read value = some (mapTexts change value) ↔
      (∀ text ∈ texts value, read text = some (change text)) ∧
        ∀ key ∈ keys value, read key = some key)
  | .null, _ => by simp [reread, mapTexts, texts, keys]
  | .bool _, _ => by simp [reread, mapTexts, texts, keys]
  | .int _, _ => by simp [reread, mapTexts, texts, keys]
  | .float _, _ => by simp [reread, mapTexts, texts, keys]
  | .str text, _ => by simp [reread, mapTexts, texts, keys]
  | .arr items, written => by
    have each := rereadItems_eq_iff items (by simpa [plain] using written)
    rw [texts, keys, ← each, reread, mapTexts]
    simp
  | .obj fields, written => by
    rw [plain, Bool.and_eq_true, decide_eq_true_eq] at written
    have each := rereadMembers_eq_iff fields written.2
    rw [texts, keys, ← each, reread, mapTexts, Option.map_eq_some_iff]
    constructor
    · rintro ⟨members, reading, same⟩
      have whole : objectOf members = members := by
        apply objectOf_full
        rw [Json.obj.inj same, rereadMembers_length fields members reading,
          ← List.length_map (f := Prod.fst), ← List.length_map (f := Prod.fst), mapMembers_keys]
      rw [reading, ← Json.obj.inj same, whole]
    · intro reading
      refine ⟨_, reading, ?_⟩
      rw [objectOf_distinct _ (by rw [mapMembers_keys]; exact written.1)]

/-- Items are read back with their texts changed one by one. -/
theorem rereadItems_eq_iff : ∀ items, plainItems items = true →
    (rereadItems read items = some (mapItems change items) ↔
      (∀ text ∈ textsOfItems items, read text = some (change text)) ∧
        ∀ key ∈ keysOfItems items, read key = some key)
  | [], _ => by simp [rereadItems, mapItems, textsOfItems, keysOfItems]
  | item :: rest, written => by
    rw [plainItems, Bool.and_eq_true] at written
    have here := reread_eq_iff item written.1
    have later := rereadItems_eq_iff rest written.2
    simp only [textsOfItems, keysOfItems, List.forall_mem_append]
    rw [and_and_and_comm, ← here, ← later, rereadItems, mapItems]
    simp only [Option.bind_eq_some_iff, Option.map_eq_some_iff, List.cons.injEq]
    constructor
    · rintro ⟨found, reading, items, following, rfl, rfl⟩
      exact ⟨reading, following⟩
    · rintro ⟨reading, following⟩
      exact ⟨_, reading, _, following, rfl, rfl⟩

/-- Members are read back with their texts changed one by one. -/
theorem rereadMembers_eq_iff : ∀ fields, plainFields fields = true →
    (rereadMembers read fields = some (mapMembers change fields) ↔
      (∀ text ∈ textsOfMembers fields, read text = some (change text)) ∧
        ∀ key ∈ keysOfMembers fields, read key = some key)
  | [], _ => by simp [rereadMembers, mapMembers, textsOfMembers, keysOfMembers]
  | (key, value) :: rest, written => by
    rw [plainFields, Bool.and_eq_true] at written
    have here := reread_eq_iff value written.1
    have later := rereadMembers_eq_iff rest written.2
    simp only [textsOfMembers, keysOfMembers, List.forall_mem_append, List.forall_mem_cons]
    rw [and_left_comm, and_and_and_comm, ← here, ← later, rereadMembers, mapMembers]
    simp only [Option.bind_eq_some_iff, Option.map_eq_some_iff, List.cons.injEq, Prod.mk.injEq]
    constructor
    · rintro ⟨known, named, found, reading, members, following, ⟨rfl, rfl⟩, rfl⟩
      exact ⟨named, reading, following⟩
    · rintro ⟨named, reading, following⟩
      exact ⟨_, named, _, reading, _, following, ⟨rfl, rfl⟩, rfl⟩
end

end Changes

/-! ## Changes to a text as a whole -/

/-- The characters of numbers. -/
def numericCharacter (character : Char) : Bool :=
  character.isDigit || ['+', '-', '.', 'e', 'E'].contains character

/-- The characters that stand around values and texts. -/
def punctuation : List Char := ['"', ',', ':', '[', ']', '\x7b', '\x7d']

/-- A change to texts that treats what is on either side of a character around values by itself, and
keeps blanks, numbers and words. -/
structure KeepsStructure (pass : List Char → List Char) : Prop where
  splits : ∀ stop ∈ punctuation, ∀ before after,
    pass (before ++ stop :: after) = pass before ++ stop :: pass after
  blank : ∀ after, pass (' ' :: after) = ' ' :: pass after
  words : ∀ word ∈ ["null", "true", "false", ""], pass word.toList = word.toList
  numbers : ∀ text, (∀ character ∈ text, numericCharacter character = true) → pass text = text

/-- A digit is a character of numbers. -/
theorem numericCharacter_of_isDigit (character : Char) (digit : character.isDigit = true) :
    numericCharacter character = true := by
  rw [numericCharacter, digit, Bool.true_or]

/-- The digits that a text starts with are characters of numbers. -/
theorem readDigits_numeric (text : List Char) :
    ∀ character ∈ (readDigits text).1, numericCharacter character = true := fun character member =>
  numericCharacter_of_isDigit character (List.mem_takeWhile_imp member)

/-- A sign is a character of numbers. -/
theorem readSign_numeric (text : List Char) :
    ∀ character ∈ (readSign text).1, numericCharacter character = true := by
  unfold readSign
  split
  · exact List.forall_mem_singleton.mpr (by decide)
  · exact fun character member => absurd member List.not_mem_nil

/-- A fraction has characters of numbers. -/
theorem readFraction_numeric (text : List Char) :
    ∀ character ∈ (readFraction text).1, numericCharacter character = true := by
  unfold readFraction
  split
  · split
    · exact fun character member => absurd member List.not_mem_nil
    · exact List.forall_mem_cons.mpr ⟨by decide, readDigits_numeric _⟩
  · exact fun character member => absurd member List.not_mem_nil

/-- An exponent has characters of numbers. -/
theorem readExponent_numeric (text : List Char) :
    ∀ character ∈ (readExponent text).1, numericCharacter character = true := by
  have sign (text : List Char) :
      ∀ character ∈ (readExponentSign text).1, numericCharacter character = true := by
    unfold readExponentSign
    split
    · exact List.forall_mem_singleton.mpr (by decide)
    · exact readSign_numeric _
  cases text with
  | nil => exact fun character member => absurd member List.not_mem_nil
  | cons letter rest =>
    simp only [readExponent]
    split
    · rename_i exponent
      rw [List.cons_append]
      refine List.forall_mem_cons.mpr ⟨?_, ?_⟩
      · rcases exponent.1 with rfl | rfl <;> decide
      · exact List.forall_mem_append.mpr ⟨sign _, readDigits_numeric _⟩
    · exact fun character member => absurd member List.not_mem_nil

/-- A text that reads as a number has characters of numbers. -/
theorem readNumber_numeric (text : List Char) (value : Json)
    (number : readNumber text = some (value, [])) :
    ∀ character ∈ text, numericCharacter character = true := by
  have whole : (readSign text).1 ++ ((readDigits (readSign text).2).1 ++
      ((readFraction (readDigits (readSign text).2).2).1 ++
        ((readExponent (readFraction (readDigits (readSign text).2).2).2).1 ++
          (readExponent (readFraction (readDigits (readSign text).2).2).2).2))) = text := by
    simp only [readExponent_whole, readFraction_whole, readDigits_whole, readSign_whole]
  have left : (readExponent (readFraction (readDigits (readSign text).2).2).2).2 = [] := by
    unfold readNumber at number
    dsimp only at number
    split_ifs at number with refused integer
    all_goals exact (Prod.mk.inj (Option.some.inj number)).2
  rw [left, List.append_nil] at whole
  rw [← whole]
  exact List.forall_mem_append.mpr ⟨readSign_numeric _, List.forall_mem_append.mpr
    ⟨readDigits_numeric _, List.forall_mem_append.mpr
      ⟨readFraction_numeric _, readExponent_numeric _⟩⟩⟩

section Passes

variable {pass : List Char → List Char} (keeps : KeepsStructure pass) (write : String → List Char)

include keeps

mutual
/-- A text changed as a whole is the value with the texts in it changed as they are written. -/
theorem pass_writeValue : ∀ value, plain value = true →
    pass (writeValue write value) = writeValue (fun text => pass (write text)) value
  | .null, _ => keeps.words "null" (by decide)
  | .bool true, _ => keeps.words "true" (by decide)
  | .bool false, _ => keeps.words "false" (by decide)
  | .int value, _ => keeps.numbers _ (readNumber_numeric _ _ (readNumber_int value))
  | .float text, written =>
    keeps.numbers _ (readNumber_numeric _ _ (readNumber_float text written))
  | .str text, _ => by
    have nothing : pass [] = [] := keeps.words "" (by decide)
    have opened := keeps.splits '"' (by decide) [] (write text ++ ['"'])
    rw [keeps.splits '"' (by decide) (write text) [], nothing] at opened
    exact opened
  | .arr items, written => by
    have nothing : pass [] = [] := keeps.words "" (by decide)
    have opened := keeps.splits '[' (by decide) [] (writeItems write items ++ [']'])
    rw [keeps.splits ']' (by decide) (writeItems write items) [], nothing,
      pass_writeItems items (by simpa [plain] using written)] at opened
    exact opened
  | .obj fields, written => by
    rw [plain, Bool.and_eq_true] at written
    have nothing : pass [] = [] := keeps.words "" (by decide)
    have opened := keeps.splits '\x7b' (by decide) [] (writeMembers write fields ++ ['\x7d'])
    rw [keeps.splits '\x7d' (by decide) (writeMembers write fields) [], nothing,
      pass_writeMembers fields written.2] at opened
    exact opened

/-- Items are changed one by one. -/
theorem pass_writeItems : ∀ items, plainItems items = true →
    pass (writeItems write items) = writeItems (fun text => pass (write text)) items
  | [], _ => keeps.words "" (by decide)
  | [item], written => by
    rw [plainItems, Bool.and_eq_true] at written
    simp only [writeItems, following, List.isEmpty_nil, if_true, List.append_nil]
    exact pass_writeValue item written.1
  | item :: next :: others, written => by
    rw [plainItems, Bool.and_eq_true] at written
    have more (text : String → List Char) : writeItems text (item :: next :: others) =
        writeValue text item ++ ',' :: ' ' :: writeItems text (next :: others) := rfl
    rw [more, more, keeps.splits ',' (by decide), keeps.blank, pass_writeValue item written.1,
      pass_writeItems (next :: others) written.2]

/-- Members are changed one by one. -/
theorem pass_writeMembers : ∀ fields, plainFields fields = true →
    pass (writeMembers write fields) = writeMembers (fun text => pass (write text)) fields
  | [], _ => keeps.words "" (by decide)
  | [(key, value)], written => by
    rw [plainFields, Bool.and_eq_true] at written
    have nothing : pass [] = [] := keeps.words "" (by decide)
    have alone (text : String → List Char) : writeMembers text [(key, value)] =
        [] ++ '"' :: (text key ++ '"' :: ([] ++ ':' :: ' ' :: writeValue text value)) := by
      simp [writeMembers, following]
    rw [alone, alone, keeps.splits '"' (by decide), keeps.splits '"' (by decide),
      keeps.splits ':' (by decide), keeps.blank, nothing, pass_writeValue value written.1]
  | (key, value) :: next :: others, written => by
    rw [plainFields, Bool.and_eq_true] at written
    have nothing : pass [] = [] := keeps.words "" (by decide)
    have more (text : String → List Char) : writeMembers text ((key, value) :: next :: others) =
        [] ++ '"' :: (text key ++ '"' :: ([] ++ ':' :: ' ' :: (writeValue text value ++
          ',' :: ' ' :: writeMembers text (next :: others)))) := rfl
    rw [more, more, keeps.splits '"' (by decide), keeps.splits '"' (by decide),
      keeps.splits ':' (by decide), keeps.blank, keeps.splits ',' (by decide), keeps.blank, nothing,
      pass_writeValue value written.1, pass_writeMembers (next :: others) written.2]
end

end Passes

/-- One change after another keeps what each of them keeps. -/
theorem KeepsStructure.comp {first second : List Char → List Char} (early : KeepsStructure first)
    (late : KeepsStructure second) : KeepsStructure (fun text => second (first text)) where
  splits := by
    intro stop known before after
    rw [early.splits stop known, late.splits stop known]
  blank := by
    intro after
    rw [early.blank, late.blank]
  words := by
    intro word known
    rw [early.words word known, late.words word known]
  numbers := by
    intro text numeric
    rw [early.numbers text numeric, late.numbers text numeric]

end Canonical

end TokenBank
