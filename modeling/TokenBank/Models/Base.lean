import TokenBank.Core.Redaction
import TokenBank.Db.Schema

/-!
# What every document model checks

Texts lose the blanks around them, those that must not be empty are refused when nothing
is left, and no object inside a document may have a key that names something that has no
place in it.
-/

namespace TokenBank

namespace BaseModel

/-- The blanks that are trimmed from a text. -/
def whiteSpace (character : Char) : Bool :=
  [0x9, 0xA, 0xB, 0xC, 0xD, 0x20, 0x85, 0xA0, 0x1680, 0x2028, 0x2029, 0x202F, 0x205F,
    0x3000].contains character.toNat ||
    (0x2000 ≤ character.toNat && character.toNat ≤ 0x200A)

/-- A text without the blanks around it. -/
def stripped (text : String) : String :=
  String.ofList ((text.toList.dropWhile whiteSpace).reverse.dropWhile whiteSpace).reverse

/-- A text that must not be empty. -/
def nonEmptyStr (text : String) : Except Raised String :=
  if stripped text = "" then .error .validationError else .ok (stripped text)

/-- Texts none of which may be empty. -/
def nonEmptyStrs (texts : List String) : Except Raised (List String) := texts.mapM nonEmptyStr

/-- Substrings that no key of a document may have. -/
def forbiddenFieldKeyFragments : List String :=
  ["seller", "buyer", "marketplace", "payment", "payout", "settlement", "yield",
    "credit_trading", "account_pool", "oauth", "cookie", "api_key", "api_key_sharing"]

/-- Keys that no document may have. -/
def forbiddenExactFieldKeys : List String := ["apr"]

/-- A key in lower case, with underscores for hyphens and spaces. -/
def normalizedKey (key : String) : List Char :=
  (Redaction.normalizedKey key).map (fun character => if character = ' ' then '_' else character)

/-- A document may not have this key. -/
def forbiddenKey (key : String) : Bool :=
  forbiddenExactFieldKeys.any (fun exact => exact.toList = normalizedKey key) ||
    forbiddenFieldKeyFragments.any (fun fragment =>
      Redaction.occursIn fragment.toList (normalizedKey key))

mutual
/-- A value has a forbidden key, at any depth. -/
def hasForbiddenKey : Json → Bool
  | .obj fields => fieldsForbidden fields
  | .arr items => itemsForbidden items
  | _ => false

/-- One of the items of an array has a forbidden key. -/
def itemsForbidden : List Json → Bool
  | [] => false
  | item :: rest => hasForbiddenKey item || itemsForbidden rest

/-- One of the members of an object has a forbidden key, or its value does. -/
def fieldsForbidden : List (String × Json) → Bool
  | [] => false
  | (key, value) :: rest => forbiddenKey key || hasForbiddenKey value || fieldsForbidden rest
end

/-- Refuse a document with a forbidden key. -/
def rejectForbiddenKeys (value : Json) : Except Raised Unit :=
  if hasForbiddenKey value then .error .validationError else .ok ()

/-- A key is refused whatever its case and hyphens, and a text is trimmed on both sides. -/
example : hasForbiddenKey (.arr [.obj [("API-Key of", .null)]]) = true ∧
    stripped " a b\n" = "a b" := by decide +kernel

end BaseModel

end TokenBank
