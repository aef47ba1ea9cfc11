import TokenBank.Core.Json

/-!
# Reading JSON texts

A text is read by recursive descent, blanks between its tokens skipped. Where a key of an
object is repeated, the last value counts. A float keeps the text it is read from, and the
texts that stand for no number, such as NaN, are refused.
-/

namespace TokenBank

namespace Canonical

/-! ## Characters and strings -/

/-- The blanks between the tokens of a text. -/
def jsonBlank (character : Char) : Bool :=
  character = ' ' || character = '\t' || character = '\n' || character = '\r'

/-- A text after the blanks it starts with. -/
def afterBlanks (text : List Char) : List Char := text.dropWhile jsonBlank

/-- The value of a hexadecimal digit. -/
def hexValue (character : Char) : Option Nat :=
  if '0' ≤ character ∧ character ≤ '9' then some (character.toNat - 48)
  else if 'a' ≤ character ∧ character ≤ 'f' then some (character.toNat - 87)
  else if 'A' ≤ character ∧ character ≤ 'F' then some (character.toNat - 55)
  else none

/-- The character that four hexadecimal digits name. Halves of surrogate pairs name none. -/
def unicodeEscape (first second third fourth : Char) : Option Char := do
  let code := (((← hexValue first) * 16 + (← hexValue second)) * 16 + (← hexValue third)) * 16 +
    (← hexValue fourth)
  if 0xD800 ≤ code ∧ code ≤ 0xDFFF then none else some (Char.ofNat code)

/-- The character that the two halves of a surrogate pair name, given as the numbers that their
digits write. -/
def surrogatePair (high low : Nat) : Option Char :=
  if 0xD800 ≤ high ∧ high ≤ 0xDBFF ∧ 0xDC00 ≤ low ∧ low ≤ 0xDFFF then
    some (Char.ofNat (0x10000 + (high - 0xD800) * 0x400 + (low - 0xDC00)))
  else none

/-- The number that four hexadecimal digits write. -/
def codeUnit (first second third fourth : Char) : Option Nat := do
  return (((← hexValue first) * 16 + (← hexValue second)) * 16 + (← hexValue third)) * 16 +
    (← hexValue fourth)

/-- The character that one letter after a backslash names. -/
def simpleEscape (letter : Char) : Option Char :=
  if letter = '"' ∨ letter = '\\' ∨ letter = '/' then some letter
  else if letter = 'n' then some '\n'
  else if letter = 'r' then some '\r'
  else if letter = 't' then some '\t'
  else if letter = 'f' then some (Char.ofNat 12)
  else if letter = 'b' then some (Char.ofNat 8)
  else none

/-- One more character in front of what was read. -/
def withCharacter (character : Char) (read : List Char × List Char) : List Char × List Char :=
  (character :: read.1, read.2)

/-- The characters of a string after its opening quote, and the text after its closing one. The two
halves of a surrogate pair are one character; a half alone is refused. -/
def readString : List Char → Option (List Char × List Char)
  | [] => none
  | '"' :: rest => some ([], rest)
  | '\\' :: 'u' :: first :: second :: third :: fourth :: rest =>
    match unicodeEscape first second third fourth with
    | some character => (readString rest).map (withCharacter character)
    | none =>
      match rest with
      | '\\' :: 'u' :: fifth :: sixth :: seventh :: eighth :: after =>
        (codeUnit first second third fourth).bind (fun high =>
          (codeUnit fifth sixth seventh eighth).bind (fun low =>
            (surrogatePair high low).bind (fun character =>
              (readString after).map (withCharacter character))))
      | _ => none
  | '\\' :: letter :: rest =>
    (simpleEscape letter).bind (fun character => (readString rest).map (withCharacter character))
  | character :: rest =>
    if character.toNat < 32 ∨ character = '\\' then none
    else (readString rest).map (withCharacter character)

/-! ## Numbers -/

/-- The digits a text starts with, and what follows them. -/
def readDigits (text : List Char) : List Char × List Char :=
  (text.takeWhile Char.isDigit, text.dropWhile Char.isDigit)

/-- The sign a text starts with, and what follows it. -/
def readSign : List Char → List Char × List Char
  | '-' :: rest => (['-'], rest)
  | text => ([], text)

/-- The fraction a text starts with, a point with digits, and what follows it. -/
def readFraction : List Char → List Char × List Char
  | '.' :: rest =>
    if (readDigits rest).1 = [] then ([], '.' :: rest)
    else ('.' :: (readDigits rest).1, (readDigits rest).2)
  | text => ([], text)

/-- The sign of an exponent, and what follows it. -/
def readExponentSign : List Char → List Char × List Char
  | '+' :: rest => (['+'], rest)
  | text => readSign text

/-- The exponent a text starts with, a letter with digits, and what follows it. -/
def readExponent : List Char → List Char × List Char
  | [] => ([], [])
  | letter :: rest =>
    let sign := readExponentSign rest
    let digits := readDigits sign.2
    if (letter = 'e' ∨ letter = 'E') ∧ digits.1 ≠ [] then (letter :: sign.1 ++ digits.1, digits.2)
    else ([], letter :: rest)

/-- The number that digits write. -/
def naturalOf (digits : List Char) : Nat := Nat.ofDigitChars 10 digits 0

/-- The number a text starts with: an integer, or a float where there is a fraction or an
exponent. No further digit may follow a zero in front. -/
def readNumber (text : List Char) : Option (Json × List Char) :=
  let sign := readSign text
  let whole := readDigits sign.2
  let fraction := readFraction whole.2
  let exponent := readExponent fraction.2
  if whole.1 = [] ∨ whole.1.head? = some '0' ∧ whole.1 ≠ ['0'] then none
  else if fraction.1 = [] ∧ exponent.1 = [] then
    some (.int (if sign.1 = [] then naturalOf whole.1 else -naturalOf whole.1), exponent.2)
  else some (.float (String.ofList (sign.1 ++ whole.1 ++ fraction.1 ++ exponent.1)), exponent.2)

/-! ## Values -/

/-- A member of an object that takes the place of an earlier one with its key. -/
def putMember (fields : JsonObject) (field : String × Json) : JsonObject :=
  if field.1 ∈ fields.map Prod.fst then
    fields.map (fun earlier => if earlier.1 = field.1 then field else earlier)
  else fields ++ [field]

/-- The object with some members, the last of those with one key. -/
def objectOf (members : List (String × Json)) : JsonObject := members.foldl putMember []

mutual
/-- The value a text starts with, and what follows it. -/
def readValue : Nat → List Char → Option (Json × List Char)
  | 0, _ => none
  | fuel + 1, text =>
    match afterBlanks text with
    | 'n' :: 'u' :: 'l' :: 'l' :: rest => some (.null, rest)
    | 't' :: 'r' :: 'u' :: 'e' :: rest => some (.bool true, rest)
    | 'f' :: 'a' :: 'l' :: 's' :: 'e' :: rest => some (.bool false, rest)
    | '"' :: rest => (readString rest).map (fun read => (.str (String.ofList read.1), read.2))
    | '[' :: rest =>
      if (afterBlanks rest).head? = some ']' then some (.arr [], (afterBlanks rest).drop 1)
      else (readItems fuel rest).map (fun read => (.arr read.1, read.2))
    | '\x7b' :: rest =>
      if (afterBlanks rest).head? = some '\x7d' then some (.obj [], (afterBlanks rest).drop 1)
      else (readMembers fuel rest).map (fun read => (.obj (objectOf read.1), read.2))
    | other => readNumber other

/-- The items of an array from one on, and what follows its bracket. -/
def readItems : Nat → List Char → Option (List Json × List Char)
  | 0, _ => none
  | fuel + 1, text =>
    (readValue fuel text).bind (fun item =>
      match afterBlanks item.2 with
      | ']' :: rest => some ([item.1], rest)
      | ',' :: rest => (readItems fuel rest).map (fun read => (item.1 :: read.1, read.2))
      | _ => none)

/-- The members of an object from one on, and what follows its brace. -/
def readMembers : Nat → List Char → Option (List (String × Json) × List Char)
  | 0, _ => none
  | fuel + 1, text =>
    match afterBlanks text with
    | '"' :: opened =>
      (readString opened).bind (fun key =>
        match afterBlanks key.2 with
        | ':' :: written =>
          (readValue fuel written).bind (fun value =>
            match afterBlanks value.2 with
            | '\x7d' :: rest => some ([(String.ofList key.1, value.1)], rest)
            | ',' :: rest =>
              (readMembers fuel rest).map
                (fun read => ((String.ofList key.1, value.1) :: read.1, read.2))
            | _ => none)
        | _ => none)
    | _ => none
end

/-- The value a text stands for. Every token takes a character, so that the length of the
text bounds the depth of the descent. -/
def jsonLoads (text : String) : Option Json :=
  match readValue (text.toList.length + 1) text.toList with
  | some (value, rest) => if afterBlanks rest = [] then some value else none
  | none => none

/-- Blanks are skipped, escapes are read, and of two members with one key the last counts. -/
example : (jsonLoads " \x7b\"a\" : [1, -2.50, \"\\u00e9\\n\"], \"a\" : null \x7d ").map canonicalJsonDumps
    = some "\x7b\"a\":null\x7d" := by decide +kernel

end Canonical

end TokenBank
