import TokenBank.Core.Runtime
import TokenBank.Text.Patterns

/-!
# Privacy preflight

The explicit input of a work unit is searched for the shapes of raw secrets and of
private data, in every string that is a value at any depth. Keys and opaque values only
hint at a secret.
-/

namespace TokenBank

/-- What a scan found, without the texts it found. -/
structure PrivacyScan where
  rawSecretDetected : Bool
  possibleSecretDetected : Bool
  privateDataDetected : Bool
  remoteEligible : Bool
  matchedSignalCounts : List (String × Nat)
  reasonCodes : List String

namespace PrivacyPreflight

open Text

/-- Letters of ASCII in upper case, and digits. -/
def upperOrDigit (character : Char) : Bool :=
  ('A' ≤ character ∧ character ≤ 'Z') ∨ ('0' ≤ character ∧ character ≤ '9')

/-- Letters of ASCII. -/
def letter (character : Char) : Bool :=
  ('A' ≤ character ∧ character ≤ 'Z') ∨ ('a' ≤ character ∧ character ≤ 'z')

/-- Letters and digits of ASCII, and some other characters. -/
def alphanumericOr (others : String) (character : Char) : Bool :=
  Redaction.alphanumeric character || others.toList.contains character

/-- The shapes of raw secrets. -/
def rawSecretPatterns : List (String × List Element) :=
  [("openai_key_shape",
      [.boundary] ++ literal "sk-" ++ [.many 12 (alphanumericOr "_-"), .boundary]),
    ("github_token_shape",
      [.boundary] ++ literal "gh" ++ [.one (fun c => "pousr".toList.contains c)] ++ literal "_" ++
        [.many 20 (alphanumericOr "_"), .boundary]),
    ("aws_access_key_shape",
      [.boundary] ++ literal "AKIA" ++ List.replicate 16 (.one upperOrDigit) ++ [.boundary]),
    ("slack_token_shape",
      [.boundary] ++ literal "xox" ++ [.one (fun c => "baprs".toList.contains c)] ++ literal "-" ++
        [.many 20 (alphanumericOr "-"), .boundary]),
    ("private_key_block",
      literal "-----BEGIN " ++ [.many 0 (fun c => ('A' ≤ c ∧ c ≤ 'Z') ∨ c = ' ')] ++
        literal "PRIVATE KEY-----")]

section Scanning

variable (runtime : PythonRuntime)

/-- The shapes of private data. -/
def privateDataPatterns : List (String × List Element) :=
  let digit := Element.one runtime.decimalDigit
  [("email_address",
      [.boundary, .many 1 (alphanumericOr "._%+-")] ++ literal "@" ++
        [.many 1 (alphanumericOr ".-")] ++ literal "." ++ [.many 2 letter, .boundary]),
    ("us_ssn_shape",
      [.boundary, digit, digit, digit] ++ literal "-" ++ [digit, digit] ++ literal "-" ++
        [digit, digit, digit, digit, .boundary]),
    ("phone_number_shape",
      [.boundary, .optional (fun c => c = '+'), digit,
        .many 8 (fun c => runtime.decimalDigit c || " .()-".toList.contains c), digit, .boundary])]

mutual
/-- Every string that is a value, at any depth. -/
def stringValues : Json → List String
  | .str text => [text]
  | .arr items => stringItems items
  | .obj fields => stringFields fields
  | _ => []

/-- The strings of the items of an array. -/
def stringItems : List Json → List String
  | [] => []
  | item :: rest => stringValues item ++ stringItems rest

/-- The strings of the values of an object's members. -/
def stringFields : List (String × Json) → List String
  | [] => []
  | (_, value) :: rest => stringValues value ++ stringFields rest
end

/-- How often each pattern occurs in texts. -/
def patternCounts (texts : List String) (patterns : List (String × List Element)) :
    List (String × Nat) :=
  patterns.map (fun pattern =>
    (pattern.1, (texts.map (fun text => count runtime.wordCharacter pattern.2 text)).sum))

/-- Words in a key that hint at a secret. -/
def possibleSecretKeywords : List String := ["secret", "token", "password", "bearer", "credential"]

/-- The key of a string hints at a secret. -/
def possibleSecretKey (key : String) : Bool :=
  possibleSecretKeywords.any (fun keyword =>
    Redaction.occursIn keyword.toList (Redaction.normalizedKey key))

/-- The text is one long opaque value, up to a line break at its end. -/
def longOpaqueValue (text : String) : Bool :=
  let run := text.toList.takeWhile (alphanumericOr "_./+=-")
  decide (32 ≤ run.length) &&
    decide (text.toList.drop run.length = [] ∨ text.toList.drop run.length = ['\n'])

/-- The value is a string. -/
def isText : Json → Bool
  | .str _ => true
  | _ => false

mutual
/-- How many keys and strings hint at a secret. -/
def possibleSecretCount : Json → Nat
  | .str text => if longOpaqueValue text then 1 else 0
  | .arr items => possibleSecretItems items
  | .obj fields => possibleSecretFields fields
  | _ => 0

/-- How many hints the items of an array give. -/
def possibleSecretItems : List Json → Nat
  | [] => 0
  | item :: rest => possibleSecretCount item + possibleSecretItems rest

/-- How many hints the members of an object give. -/
def possibleSecretFields : List (String × Json) → Nat
  | [] => 0
  | (key, value) :: rest =>
    (if isText value && possibleSecretKey key then 1 else 0) + possibleSecretCount value +
      possibleSecretFields rest
end

/-- Some pattern occurs. -/
def detected (counts : List (String × Nat)) : Bool := counts.any (fun count => decide (0 < count.2))

/-- The reason codes of a scan. -/
def scanReasonCodes (rawSecret possibleSecret privateData : Bool) : List String :=
  let reasonCodes := (if rawSecret then ["raw_secret_shape_detected"] else []) ++
    (if possibleSecret then ["possible_secret_detected"] else []) ++
    if privateData then ["private_data_detected"] else []
  if reasonCodes.isEmpty then ["no_privacy_signal_detected"] else reasonCodes

/-- Scan an input for secrets and private data. -/
def scanPrivacy (value : Json) : PrivacyScan :=
  let texts := stringValues value
  let rawCounts := patternCounts runtime texts rawSecretPatterns
  let privateCounts := patternCounts runtime texts (privateDataPatterns runtime)
  let possibleCount := possibleSecretCount value
  let rawSecret := detected rawCounts
  let possibleSecret := rawSecret || decide (0 < possibleCount)
  let privateData := detected privateCounts
  { rawSecretDetected := rawSecret
    possibleSecretDetected := possibleSecret
    privateDataDetected := privateData
    remoteEligible := !rawSecret && !privateData
    matchedSignalCounts := (rawCounts ++ privateCounts ++ [("possible_secret_shape", possibleCount)]).filter
      (fun count => decide (0 < count.2))
    reasonCodes := scanReasonCodes rawSecret possibleSecret privateData }

end Scanning

/-- A key in a nested list is found, and so is a phone number that is no word's part. -/
example : let runtime : PythonRuntime := ⟨fun _ => false, fun _ => false, fun _ => "", fun _ => none⟩
    (scanPrivacy runtime (.obj [("items", .arr [.str "x sk-testsecret1234567890."])])).rawSecretDetected ∧
      (scanPrivacy runtime (.str "call 0 30-12 34 56 78")).privateDataDetected ∧
      ¬ (scanPrivacy runtime (.str "call 12 34")).privateDataDetected := by
  decide +kernel

end PrivacyPreflight

end TokenBank
