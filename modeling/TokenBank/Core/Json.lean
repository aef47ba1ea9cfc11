import Mathlib.Data.List.Sort
import Mathlib.Data.String.Basic

/-!
# JSON values and their canonical text

Values are the JSON-compatible ones of the source: objects keep the order in
which their keys were written, and a floating-point number is kept as the text
it is written with. The canonical text sorts object keys at every depth, writes
no blanks, and leaves non-ASCII characters as they are.
-/

namespace TokenBank

/-- A JSON value. Numbers with a fraction or an exponent carry their text. -/
inductive Json : Type
  | null
  | bool (value : Bool)
  | int (value : Int)
  | float (text : String)
  | str (text : String)
  | arr (items : List Json)
  | obj (fields : List (String × Json))

/-- The members of a JSON object, in the order they were written. -/
abbrev JsonObject := List (String × Json)

namespace Json

/-- A string, or null when it is absent. -/
def optional : Option String → Json
  | none => .null
  | some text => .str text

/-- A natural number as a JSON integer. -/
def nat (value : Nat) : Json := .int value

end Json

namespace Canonical

/-- One lower-case hexadecimal digit. -/
def hexDigit (value : Nat) : Char :=
  if value < 10 then Char.ofNat (48 + value) else Char.ofNat (87 + value)

/-- One character inside a JSON string. Only quotes, backslashes and control
characters are escaped. -/
def escaped (character : Char) : String :=
  if character = '"' then "\\\""
  else if character = '\\' then "\\\\"
  else if character = '\n' then "\\n"
  else if character = '\r' then "\\r"
  else if character = '\t' then "\\t"
  else if character.toNat = 12 then "\\f"
  else if character.toNat = 8 then "\\b"
  else if character.toNat < 32 then
    "\\u00" ++ String.ofList [hexDigit (character.toNat / 16), hexDigit (character.toNat % 16)]
  else String.ofList [character]

/-- A JSON string literal. -/
def quoted (text : String) : String :=
  "\"" ++ String.join (text.toList.map escaped) ++ "\""

mutual
/-- The canonical text of a value: keys sorted, no blanks. -/
def canonicalJsonDumps : Json → String
  | .null => "null"
  | .bool true => "true"
  | .bool false => "false"
  | .int value => toString value
  | .float text => text
  | .str text => quoted text
  | .arr items => "[" ++ ",".intercalate (dumpsItems items) ++ "]"
  | .obj fields =>
    let sorted := (dumpsFields fields).insertionSort (fun left right => left.1 ≤ right.1)
    "\x7b" ++ ",".intercalate (sorted.map (fun field => quoted field.1 ++ ":" ++ field.2)) ++ "\x7d"

/-- The canonical texts of the items of an array. -/
def dumpsItems : List Json → List String
  | [] => []
  | item :: rest => canonicalJsonDumps item :: dumpsItems rest

/-- The keys of an object with the canonical texts of their values. -/
def dumpsFields : List (String × Json) → List (String × String)
  | [] => []
  | (key, value) :: rest => (key, canonicalJsonDumps value) :: dumpsFields rest
end

/-- Keys come out sorted whatever order they were written in. -/
example : canonicalJsonDumps (.obj [("b", .int 1), ("a", .arr [.null, .str "x\n"])]) =
    "\x7b\"a\":[null,\"x\\n\"],\"b\":1\x7d" := by decide +kernel

section Hashes

variable (sha256 : String → String)

/-- The hash of a value is that of its canonical text. -/
def canonicalJsonHash (value : Json) : String := sha256 (canonicalJsonDumps value)

/-- The hash of a backend output, under its own kind. -/
def outputHash (output : Json) : String :=
  canonicalJsonHash sha256 (.obj [("kind", .str "tokenbank.output.v1"), ("output", output)])

/-- The hash of a result payload, under its own kind. -/
def resultHash (result : Json) : String :=
  canonicalJsonHash sha256 (.obj [("kind", .str "tokenbank.result.v1"), ("result", result)])

end Hashes

end Canonical

end TokenBank
