import TokenBank.Core.Redaction
import TokenBank.Core.Runtime
import TokenBank.Text.Patterns

/-!
# Worker logs

A worker writes its messages to a log line by line. A message is redacted first: tokens as a
whole, and then what follows the words of an authorization header, of a worker token and of an API
key. A message that still has a token is refused.
-/

namespace TokenBank

namespace WorkerLog

open Redaction Text

/-- The replacement of a lease token. -/
def redactedLeaseToken : String := "[REDACTED_LEASE_TOKEN]"

/-- A character of a text matches a lower-case one of a pattern that ignores case. Four letters
beyond ASCII are equal to one of three letters when case is ignored. -/
def ignoringCase (letter character : Char) : Bool :=
  character = letter ||
    ('a' ≤ letter && letter ≤ 'z' && character.toNat + 32 = letter.toNat) ||
    (letter = 'i' && (character.toNat = 0x130 || character.toNat = 0x131)) ||
    (letter = 'k' && character.toNat = 0x212A) ||
    (letter = 's' && character.toNat = 0x17F)

/-- The elements that match a text whatever its case. -/
def caseless (text : String) : List Element :=
  text.toList.map (fun letter => .one (ignoringCase letter))

/-- A character that is no blank. -/
def visible (character : Char) : Bool := !blank character

/-- The rule that keeps what a group matches and replaces what follows it up to a blank. -/
def keepingGroup (group : List Element) : Rule Char where
  marker := redactedSecret.toList
  pattern := captureLength (fun _ => false) (runAfter 0 visible) group none

/-- The rule for the lease tokens of assignments. -/
def leaseTokenRule : Rule Char :=
  replacing redactedLeaseToken (literalThen "tbk_l_" (fun c => alphanumeric c || c = '_' || c = '-'))

/-- The words that a secret follows. -/
def workerSecretPatterns : List (List Element) :=
  [caseless "authorization:" ++ [.many 0 blank] ++ caseless "bearer" ++ [.many 1 blank],
    caseless "worker_token:" ++ [.many 0 blank],
    caseless "api" ++ [.optional (fun c => c = '_' || c = '-')] ++ caseless "key" ++
      [.many 0 blank, .one (fun c => c = ':' || c = '='), .many 0 blank]]

/-- A message as it is logged. -/
def redactWorkerLog (text : List Char) : List Char :=
  (workerSecretPatterns.map keepingGroup).foldl (fun redacted rule => rule.apply redacted)
    (leaseTokenRule.apply (redactTokenPrefixes text))

/-- The patterns of tokens that no log may have. -/
def unredactedTokenPatterns : List (List Char → Option Nat) :=
  [literalThen "tbk_h_" (fun c => alphanumeric c || c = '_'),
    literalThen "tbk_w_" (fun c => alphanumeric c || c = '_'),
    literalThen "tbk_i_" (fun c => alphanumeric c || c = '_'),
    literalThen "tbk_l_" (fun c => alphanumeric c || c = '_' || c = '-')]

/-- Some token pattern matches somewhere in a text. -/
def containsUnredactedWorkerSecret (text : List Char) : Bool :=
  unredactedTokenPatterns.any (fun pattern => text.tails.any (fun rest => (pattern rest).isSome))

/-- The log after a message, or the refusal of the message. -/
def write (log message : List Char) : Except Raised (List Char) :=
  let redacted := redactWorkerLog message
  if containsUnredactedWorkerSecret redacted then
    .error (.valueError "worker log still contains a secret-like token")
  else .ok (log ++ redacted ++ ['\n'])

/-- A header keeps its words, and a lease token goes as a whole. -/
example : redactWorkerLog
    "Authorization: Bearer tbk_w_a lease=tbk_l_c".toList =
      "Authorization: Bearer [REDACTED_SECRET] lease=[REDACTED_LEASE_TOKEN]".toList := by
  decide +kernel

end WorkerLog

end TokenBank
