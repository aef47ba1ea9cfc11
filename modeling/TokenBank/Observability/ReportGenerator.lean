import TokenBank.Core.Remains
import TokenBank.Core.Writing

/-!
# Reports

A report is redacted as the text that JSON writes for it, and read back. Tokens are replaced first,
then keys that start with sk-, and last what follows the word bearer and blanks.
-/

namespace TokenBank

namespace ReportGenerator

open Redaction Text

/-- The characters of a bearer credential in a report. Four letters beyond ASCII are equal to one of
them when case is ignored. -/
def credentialCharacter (character : Char) : Bool :=
  alphanumeric character || ['.', '_', '-'].contains character ||
    [0x130, 0x131, 0x17F, 0x212A].contains character.toNat

/-- The characters of a key that starts with sk-. -/
def keyCharacter (character : Char) : Bool :=
  alphanumeric character || character = '_' || character = '-'

/-- The rule for keys that start with sk-. -/
def keyRule : Rule Char := replacing redactedSecret (literalThen "sk-" keyCharacter)

/-- The rule for bearer credentials, which keeps the word and the blanks behind it. -/
def bearerRule : Rule Char where
  marker := redactedSecret.toList
  pattern text := (bearerThen credentialCharacter text).map
    (fun length => (6 + ((text.drop 6).takeWhile blank).length, length))

/-- A text with its keys and its bearer credentials replaced. -/
def redactSecretLike (text : List Char) : List Char := bearerRule.apply (keyRule.apply text)

/-- A text with its tokens, its keys and its bearer credentials replaced. -/
def redactText (text : List Char) : List Char := redactSecretLike (redactTokenPrefixes text)

/-- A report redacted, or nothing if what is left of its text is refused as JSON. -/
def redactReport (report : Json) : Option Json :=
  Canonical.jsonLoads (String.ofList (redactText (Canonical.jsonDumps report).toList))

/-- Each text of a report is redacted where the report is, and a token in it is replaced. -/
example : (redactReport (.obj [("log", .arr [.str "Bearer x-1, tbk_w_a", .int 1])])).map
    Canonical.canonicalJsonDumps =
      some "\x7b\"log\":[\"Bearer [REDACTED_SECRET], [REDACTED_TOKEN]\",1]\x7d" := by decide +kernel

end ReportGenerator

end TokenBank
