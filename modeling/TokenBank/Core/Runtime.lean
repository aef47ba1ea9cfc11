import TokenBank.Core.Redaction
import TokenBank.Core.Values
import TokenBank.Db.Schema

/-!
# The runtime of the source

What the source's language does with values that nothing has validated: asking a value for
a member, looping over it, taking it as a mapping, a set of texts or an integer. A value of
another kind raises an exception. What counts as a word character or as a digit beyond
ASCII, the text of a container and the integer a text writes are the runtime's to know, and
parameters here.
-/

namespace TokenBank

/-- What the runtime knows about text. -/
structure PythonRuntime where
  alphanumeric : Char → Bool
  digit : Char → Bool
  repr : Json → String
  integerOf : String → Option Int

namespace PythonRuntime

variable (runtime : PythonRuntime)

/-- The character is part of a word. -/
def wordCharacter (character : Char) : Bool :=
  character = '_' || if character.toNat < 128 then Redaction.alphanumeric character
    else runtime.alphanumeric character

/-- The character is a decimal digit. -/
def decimalDigit (character : Char) : Bool :=
  if character.toNat < 128 then decide ('0' ≤ character ∧ character ≤ '9')
  else runtime.digit character

/-- The text of a value. -/
def str : Json → String
  | .null => "None"
  | .bool true => "True"
  | .bool false => "False"
  | .int value => toString value
  | .float text => text
  | .str text => text
  | value => runtime.repr value

/-- A number without its fraction. -/
def truncated (value : ℚ) : Int := if 0 ≤ value then ⌊value⌋ else ⌈value⌉

/-- The integer a value is taken as. -/
def int : Json → Except Raised Int
  | .bool value => .ok (if value then 1 else 0)
  | .int value => .ok value
  | .float text =>
    match (Json.float text).number with
    | some value => .ok (truncated value)
    | none => .error (.valueError "cannot convert float NaN to integer")
  | .str text =>
    match runtime.integerOf text with
    | some value => .ok value
    | none => .error (.valueError ("invalid literal for int() with base 10: " ++ text))
  | _ => .error .typeError

end PythonRuntime

namespace Json

/-- The member of an object under a key, or what is read in its place. -/
def getOr (fields : JsonObject) (key : String) (other : Json) : Json :=
  ((fields.find? (fun field => field.1 = key)).map Prod.snd).getD other

/-- The member of an object that must be there. -/
def item (fields : JsonObject) (key : String) : Except Raised Json :=
  if has fields key then .ok (get fields key) else .error (.keyError key)

/-- The value under a key of a value that must be an object that has it. -/
def subscripted : Json → String → Except Raised Json
  | .obj fields, key => item fields key
  | _, _ => .error .typeError

/-- The members of a value that is asked for one of them. -/
def asked : Json → Except Raised JsonObject
  | .obj fields => .ok fields
  | _ => .error .attributeError

/-- The values that a loop over a value takes: items, keys or characters. -/
def iterated : Json → Except Raised (List Json)
  | .arr items => .ok items
  | .obj fields => .ok (fields.map (fun field => .str field.1))
  | .str text => .ok (text.toList.map (fun character => .str (String.ofList [character])))
  | _ => .error .typeError

end Json

/-- Fractions are cut off on both sides of zero. -/
example : let runtime : PythonRuntime := ⟨fun _ => false, fun _ => false, fun _ => "", fun _ => none⟩
    runtime.int (.float "-1.5") = .ok (-1) ∧ runtime.int .null = .error .typeError := by
  decide +kernel

end TokenBank
