import TokenBank.Core.Json
import TokenBank.Text.Rewriting

/-!
# Redaction of credential-like keys and secret-like strings

Event bodies are redacted before they are stored. The value of a credential-like
key is replaced as a whole; in every other string, the longest match at each
leftmost position of six patterns is replaced, one pattern after the other. Each
pattern is a literal opening followed by a non-empty run of characters of a class.
Logs and reports are redacted as texts, their tokens first.
-/

namespace TokenBank

namespace Redaction

/-- Substrings that make an object key credential-like. -/
def secretKeyFragments : List String :=
  ["api_key", "apikey", "bearer", "cookie", "credential", "oauth", "provider_secret",
    "provider_token", "refresh_token", "secret", "token"]

/-- The replacement of a secret. -/
def redactedSecret : String := "[REDACTED_SECRET]"

/-- Lower case. Beyond ASCII only the Kelvin sign and the dotted capital I have
an ASCII letter in their lower case; other characters cannot affect a search for
ASCII text and are kept. -/
def lowerCharacter (character : Char) : List Char :=
  if 'A' ≤ character ∧ character ≤ 'Z' then [Char.ofNat (character.toNat + 32)]
  else if character.toNat = 0x212A then ['k']
  else if character.toNat = 0x130 then ['i', Char.ofNat 0x307]
  else [character]

/-- A key in lower case, with underscores for hyphens. -/
def normalizedKey (key : String) : List Char :=
  (key.toList.flatMap lowerCharacter).map (fun character => if character = '-' then '_' else character)

/-- One text occurs in another. -/
def occursIn (fragment : List Char) : List Char → Bool
  | [] => fragment.isEmpty
  | text@(_ :: rest) => fragment.isPrefixOf text || occursIn fragment rest

/-- The key is credential-like. -/
def secretKey (key : String) : Bool :=
  secretKeyFragments.any (fun fragment => occursIn fragment.toList (normalizedKey key))

/-- What is asked of every character of a text is decided along the text. -/
instance decidableInText {asked : Char → Prop} [DecidablePred asked] (text : List Char) :
    Decidable (∀ character ∈ text, asked character) :=
  List.decidableBAll asked text

/-- Letters and digits of ASCII. -/
def alphanumeric (character : Char) : Bool :=
  ('A' ≤ character ∧ character ≤ 'Z') ∨ ('a' ≤ character ∧ character ≤ 'z') ∨
    ('0' ≤ character ∧ character ≤ '9')

/-- The blanks a regular expression over text recognises. -/
def blank (character : Char) : Bool :=
  [0x9, 0xA, 0xB, 0xC, 0xD, 0x1C, 0x1D, 0x1E, 0x1F, 0x20, 0x85, 0xA0, 0x1680, 0x2028, 0x2029,
    0x202F, 0x205F, 0x3000].contains character.toNat ||
    (0x2000 ≤ character.toNat && character.toNat ≤ 0x200A)

/-- The length of a non-empty run of a class after a number of matched characters. -/
def runAfter (matched : Nat) (inClass : Char → Bool) (text : List Char) : Option Nat :=
  let length := (text.takeWhile inClass).length
  if length = 0 then none else some (matched + length)

/-- Match a literal opening and then a non-empty run of a class. -/
def literalThen (opening : String) (inClass : Char → Bool) (text : List Char) : Option Nat :=
  if opening.toList.isPrefixOf text then
    runAfter opening.length inClass (text.drop opening.length)
  else none

/-- Match the word bearer in any case, blanks, and a non-empty run of a class. -/
def bearerThen (inClass : Char → Bool) (text : List Char) : Option Nat :=
  let word := text.take 6
  if word.flatMap lowerCharacter = "bearer".toList then
    match runAfter 6 blank (text.drop 6) with
    | none => none
    | some matched => runAfter matched inClass (text.drop matched)
  else none

/-- The characters of a bearer credential. Four letters beyond ASCII are equal to one of them
when case is ignored. -/
def bearerCharacter (character : Char) : Bool :=
  alphanumeric character || "._~+/=-".toList.contains character ||
    [0x130, 0x131, 0x17F, 0x212A].contains character.toNat

/-- The six secret patterns, each as the length of its match at the start of a text. -/
def secretValuePatterns : List (List Char → Option Nat) :=
  [literalThen "sk-" (fun c => alphanumeric c || c = '_' || c = '-'),
    bearerThen bearerCharacter,
    literalThen "tbk_h_" (fun c => alphanumeric c || c = '_'),
    literalThen "tbk_w_" (fun c => alphanumeric c || c = '_'),
    literalThen "tbk_i_" (fun c => alphanumeric c || c = '_'),
    literalThen "tbk_l_" (fun c => alphanumeric c || c = '_' || c = '-')]

/-- Replace every leftmost longest match of one pattern, skipping the characters
that remain of the match being replaced. -/
def substitute (pattern : List Char → Option Nat) : Nat → List Char → List Char
  | _, [] => []
  | skipped + 1, _ :: rest => substitute pattern skipped rest
  | 0, text@(character :: rest) =>
    match pattern text with
    | some length => redactedSecret.toList ++ substitute pattern (length - 1) rest
    | none => character :: substitute pattern 0 rest

/-- Replace the matches of all patterns in a text, one pattern after the other. -/
def redactText (text : String) : String :=
  String.ofList (secretValuePatterns.foldl
    (fun redacted pattern => substitute pattern 0 redacted) text.toList)

mutual
/-- Redact a value recursively: credential-like keys lose their value, strings
lose their secrets, and everything else is kept. -/
def redactSensitiveValue : Json → Json
  | .null => .null
  | .bool value => .bool value
  | .int value => .int value
  | .float text => .float text
  | .str text => .str (redactText text)
  | .arr items => .arr (redactItems items)
  | .obj fields => .obj (redactFields fields)

/-- Redact the items of an array. -/
def redactItems : List Json → List Json
  | [] => []
  | item :: rest => redactSensitiveValue item :: redactItems rest

/-- Redact the members of an object. -/
def redactFields : List (String × Json) → List (String × Json)
  | [] => []
  | (key, value) :: rest =>
    (key, if secretKey key then .str redactedSecret else redactSensitiveValue value) ::
      redactFields rest
end

mutual
/-- Redact the strings of a value and keep all keys, as dashboards do. -/
def redactSecretLikeStrings : Json → Json
  | .str text => redactSensitiveValue (.str text)
  | .arr items => .arr (redactStringItems items)
  | .obj fields => .obj (redactStringFields fields)
  | value => value

/-- Redact the strings of the items of an array. -/
def redactStringItems : List Json → List Json
  | [] => []
  | item :: rest => redactSecretLikeStrings item :: redactStringItems rest

/-- Redact the strings of the values of an object's members. -/
def redactStringFields : List (String × Json) → List (String × Json)
  | [] => []
  | (key, value) :: rest => (key, redactSecretLikeStrings value) :: redactStringFields rest
end

/-! ## Texts redacted as they are -/

/-- The replacement of a token. -/
def redactedToken : String := "[REDACTED_TOKEN]"

/-- The rule that puts a text in the place of each match of a pattern. -/
def replacing (replacement : String) (pattern : List Char → Option Nat) : Text.Rule Char where
  marker := replacement.toList
  pattern text := (pattern text).map (fun length => (0, length))

/-- The three patterns of tokens. -/
def defaultTokenPrefixPatterns : List (List Char → Option Nat) :=
  [literalThen "tbk_h_" (fun c => alphanumeric c || c = '_'),
    literalThen "tbk_w_" (fun c => alphanumeric c || c = '_'),
    literalThen "tbk_i_" (fun c => alphanumeric c || c = '_')]

/-- A text with the matches of the token patterns replaced, one pattern after the other. -/
def redactTokenPrefixes (text : List Char) : List Char :=
  defaultTokenPrefixPatterns.foldl
    (fun redacted pattern => (replacing redactedToken pattern).apply redacted) text

/-! ## Members -/

/-- Redaction keeps the keys of an object and their order. -/
theorem redactFields_keys (fields : List (String × Json)) :
    (redactFields fields).map Prod.fst = fields.map Prod.fst := by
  induction fields with
  | nil => rfl
  | cons field rest inductionHypothesis =>
    simp only [redactFields, List.map_cons, inductionHypothesis]

/-- A lease token inside a sentence is replaced up to its last character. -/
example : redactText "use tbk_l_a-B9_ now" = "use [REDACTED_SECRET] now" := by decide +kernel

end Redaction

end TokenBank
