import TokenBank.Core.Redaction
import TokenBank.Core.Values
import TokenBank.Db.Schema
import TokenBank.Models.ResultEnvelope
import TokenBank.Verifier.Recipes

/-!
# Common checks

The checks every recipe makes of a result: that the envelope has its identifiers, that
its hashes are those of its content, that the policy decision belongs to it and approves
it, that no text of its document looks like a secret, and that its output satisfies the
configured schema. The digest and the schema validator are libraries, and parameters here.
-/

namespace TokenBank

/-- The libraries a verifier calls. The validator answers with the path of the first
violation, if there is one, or raises an exception of its own on a schema it cannot read. -/
structure VerifierPlatform where
  sha256 : String → String
  validate : JsonObject → Json → Except Raised (Option (List Json))

/-- The result of one check. -/
structure VerifierCheckResult where
  name : String
  status : VerifierStatus
  message : String := ""
  observedHash : Option String := none
  metadata : JsonObject := []

namespace Checks

/-- A check that passed. -/
def passedCheck (name : String) (message : String := "") (metadata : JsonObject := []) :
    VerifierCheckResult :=
  ⟨name, .passed, if message = "" then "passed" else message, none, metadata⟩

/-- A check that failed. -/
def failedCheck (name message : String) (observedHash : Option String := none)
    (metadata : JsonObject := []) : VerifierCheckResult :=
  ⟨name, .failed, message, observedHash, metadata⟩

/-- A check that needs review. -/
def warningCheck (name message : String) : VerifierCheckResult :=
  ⟨name, .needsReview, message, none, []⟩

/-- A check that was not made. -/
def skippedCheck (name message : String) : VerifierCheckResult := ⟨name, .skipped, message, none, []⟩

/-- The identifiers an envelope must have, under their names. -/
def requiredIdentifiers (envelope : WorkUnitResultEnvelope) : List (String × String) :=
  [("result_envelope_id", envelope.resultEnvelopeId), ("work_unit_id", envelope.workUnitId),
    ("attempt_id", envelope.attemptId), ("assignment_id", envelope.assignmentId)]

/-- Check that no required identifier is empty. -/
def checkEnvelopeIntegrity (envelope : WorkUnitResultEnvelope) : List VerifierCheckResult :=
  let missing := (requiredIdentifiers envelope).filter (fun entry => entry.2 = "")
  if missing.isEmpty then [passedCheck "result_envelope_integrity"]
  else [failedCheck "result_envelope_integrity" "result envelope is missing required identifiers"
    none [("missing", .arr (missing.map (fun entry => .str entry.1)))]]

/-- The payload an envelope's result hash is computed from. -/
def resultPayload (envelope : WorkUnitResultEnvelope) : Json :=
  .obj [("work_unit_id", .str envelope.workUnitId), ("attempt_id", .str envelope.attemptId),
    ("assignment_id", .str envelope.assignmentId), ("backend_id", .optional envelope.backendId),
    ("backend_class", .optional (envelope.backendClass.map BackendClass.text)),
    ("output_hash", .str envelope.outputHash), ("status", .str envelope.status.text),
    ("usage_record_ids", .arr (envelope.usageRecords.map (fun usage => .str usage.usageRecordId))),
    ("error_codes", .arr (envelope.errors.map (fun error => .str error.errorCode)))]

/-- The hash an envelope's output must have. -/
def expectedOutputHash (platform : VerifierPlatform) (envelope : WorkUnitResultEnvelope) : String :=
  Canonical.outputHash platform.sha256 (.obj envelope.output)

/-- The result hash an envelope must have. -/
def expectedEnvelopeResultHash (platform : VerifierPlatform) (envelope : WorkUnitResultEnvelope) :
    String :=
  Canonical.resultHash platform.sha256 (resultPayload envelope)

/-- Check one hash against the expected one. -/
def checkHash (name message expected observed : String) : VerifierCheckResult :=
  if expected = observed then passedCheck name "" [("observed_hash", .str expected)]
  else failedCheck name message (some expected)

/-- Check the hashes of an envelope. Without an output hash nothing else is checked. -/
def checkHashes (platform : VerifierPlatform) (envelope : WorkUnitResultEnvelope) :
    List VerifierCheckResult :=
  if envelope.outputHash = "" then [failedCheck "output_hash_present" "output_hash is missing"]
  else
    [checkHash "output_hash_valid" "output_hash does not match output"
        (expectedOutputHash platform envelope) envelope.outputHash,
      checkHash "result_hash_valid" "result_hash does not match result envelope"
        (expectedEnvelopeResultHash platform envelope) envelope.resultHash]

/-- Check that the policy decision is about this work unit and approves it. -/
def checkPolicyLinkage (envelope : WorkUnitResultEnvelope) :
    Option JsonObject → List VerifierCheckResult
  | none =>
    [skippedCheck "policy_linkage" "policy decision linkage not provided to verifier runner"]
  | some decision =>
    if !(Json.str envelope.workUnitId).same (Json.get decision "work_unit_id") then
      [failedCheck "policy_linkage" "policy decision work_unit_id does not match result envelope"]
    else if !(Json.str "approved").same (Json.get decision "decision") then
      [failedCheck "policy_linkage" "policy decision is not approved"]
    else [passedCheck "policy_linkage"]

/-! ## Secrets -/

/-- A character of a text matches a lower-case one of a pattern that ignores case. Two
letters beyond ASCII are equal to `i` when case is ignored. -/
def ignoringCase (letter character : Char) : Bool :=
  character = letter ||
    ('a' ≤ letter && letter ≤ 'z' && character.toNat + 32 = letter.toNat) ||
    (letter = 'i' && (character.toNat = 0x130 || character.toNat = 0x131))

/-- What follows a word at the start of a text, whatever its case. -/
def afterWord : List Char → List Char → Option (List Char)
  | [], text => some text
  | _ :: _, [] => none
  | letter :: word, character :: text =>
    if ignoringCase letter character then afterWord word text else none

/-- The text starts with an authorization header that bears a credential. -/
def authorizationBearer (text : List Char) : Bool :=
  match afterWord "authorization:".toList text with
  | none => false
  | some scheme =>
    match afterWord "bearer".toList (scheme.dropWhile Redaction.blank) with
    | none => false
    | some credential =>
      let trimmed := credential.dropWhile Redaction.blank
      !trimmed.isEmpty && trimmed.length < credential.length

/-- Letters, digits, underscore and hyphen. -/
def tokenCharacter (character : Char) : Bool :=
  Redaction.alphanumeric character || character = '_' || character = '-'

/-- The secret patterns, as conditions on the start of a text. -/
def secretPatterns : List (List Char → Bool) :=
  ["sk-", "tbk_h_", "tbk_w_", "tbk_i_", "tbk_l_"].map
      (fun opening text => (Redaction.literalThen opening tokenCharacter text).isSome) ++
    [authorizationBearer]

/-- A pattern matches somewhere in a text. -/
def searches (pattern : List Char → Bool) : List Char → Bool
  | [] => pattern []
  | text@(_ :: rest) => pattern text || searches pattern rest

/-- The text looks like it holds a secret. -/
def secretLike (text : String) : Bool :=
  secretPatterns.any (fun pattern => searches pattern text.toList)

mutual
/-- The paths of the secret-like texts inside a value. -/
def secretPaths (path : String) : Json → List String
  | .str text => if secretLike text then [path] else []
  | .arr items => secretItems path 0 items
  | .obj fields => secretFields path fields
  | _ => []

/-- The paths inside the items of an array, from a position on. -/
def secretItems (path : String) : Nat → List Json → List String
  | _, [] => []
  | index, item :: rest =>
    secretPaths (path ++ "[" ++ toString index ++ "]") item ++ secretItems path (index + 1) rest

/-- The paths inside the members of an object. -/
def secretFields (path : String) : List (String × Json) → List String
  | [] => []
  | (key, value) :: rest => secretPaths (path ++ "." ++ key) value ++ secretFields path rest
end

/-- The secrets of an object's members are those of its first and its other members. -/
theorem secretFields_append (path : String) (first second : JsonObject) :
    secretFields path (first ++ second) = secretFields path first ++ secretFields path second := by
  induction first with
  | nil => rw [List.nil_append, secretFields, List.nil_append]
  | cons field rest inductionHypothesis =>
    obtain ⟨key, value⟩ := field
    rw [List.cons_append, secretFields, secretFields, inductionHypothesis, List.append_assoc]

/-- A header in any case is a secret, and so is a key inside a longer text. -/
example : secretLike "AuthorIzation:Bearer x" ∧ secretLike "use sk-a now" ∧
    ¬ secretLike "authorization: bearer " := by decide +kernel

/-- The characters a secret can start with. -/
def secretOpenings : List Char := ['s', 't', 'a', 'A']

/-- No pattern matches where a secret cannot start. -/
theorem pattern_unmatched : ∀ pattern ∈ secretPatterns, pattern [] = false ∧
    ∀ character ∉ secretOpenings, ∀ rest, pattern (character :: rest) = false := by
  have literal : ∀ opening first word, opening.toList = first :: word → first ∈ secretOpenings →
      (Redaction.literalThen opening tokenCharacter []).isSome = false ∧
        ∀ character ∉ secretOpenings, ∀ rest,
          (Redaction.literalThen opening tokenCharacter (character :: rest)).isSome = false := by
    intro opening first word starts known
    refine ⟨by simp [Redaction.literalThen, starts], ?_⟩
    intro character apart rest
    have other : first ≠ character := fun same => apart (same ▸ known)
    simp [Redaction.literalThen, starts, other]
  have header : ∀ character ∉ secretOpenings, ∀ rest,
      authorizationBearer (character :: rest) = false := by
    intro character apart rest
    have other : ignoringCase 'a' character = false := by
      simp only [secretOpenings, List.mem_cons, List.not_mem_nil, or_false, not_or] at apart
      have upper : character.toNat + 32 ≠ 97 := by
        intro same
        have code : character.toNat = 'A'.toNat := by
          change character.toNat = 65
          omega
        exact apart.2.2.2 (Char.toNat_inj.mp code)
      simp [ignoringCase, apart.2.2.1, upper]
    have start : afterWord "authorization:".toList (character :: rest) = none := by
      have word : "authorization:".toList = 'a' :: "uthorization:".toList := by decide +kernel
      simp only [word, afterWord, other, Bool.false_eq_true, if_false]
    rw [authorizationBearer, start]
  intro pattern member
  simp only [secretPatterns, List.map_cons, List.map_nil, List.cons_append, List.nil_append,
    List.mem_cons, List.not_mem_nil, or_false] at member
  rcases member with same | same | same | same | same | same
  · exact same ▸ literal "sk-" 's' ['k', '-'] (by decide) (by decide)
  · exact same ▸ literal "tbk_h_" 't' ['b', 'k', '_', 'h', '_'] (by decide) (by decide)
  · exact same ▸ literal "tbk_w_" 't' ['b', 'k', '_', 'w', '_'] (by decide) (by decide)
  · exact same ▸ literal "tbk_i_" 't' ['b', 'k', '_', 'i', '_'] (by decide) (by decide)
  · exact same ▸ literal "tbk_l_" 't' ['b', 'k', '_', 'l', '_'] (by decide) (by decide)
  · exact same ▸ ⟨by decide, header⟩

/-- A text without the characters a secret can start with holds none. -/
theorem secretLike_false (text : String)
    (apart : ∀ character ∈ text.toList, character ∉ secretOpenings) : secretLike text = false := by
  rw [secretLike, List.any_eq_false]
  intro pattern member
  obtain ⟨empty, unmatched⟩ := pattern_unmatched pattern member
  rw [Bool.not_eq_true]
  generalize text.toList = characters at apart
  induction characters with
  | nil => exact empty
  | cons character rest inductionHypothesis =>
    rw [searches, unmatched character (apart character List.mem_cons_self) rest,
      inductionHypothesis (fun other inRest => apart other (List.mem_cons_of_mem _ inRest))]
    rfl

/-- Check that the document of an envelope holds no secret. -/
def checkSecretRedaction (envelope : WorkUnitResultEnvelope) : List VerifierCheckResult :=
  let leaks := secretPaths "$" envelope.modelDump
  if leaks.isEmpty then [passedCheck "secret_redaction"]
  else [failedCheck "secret_redaction" "result envelope contains unredacted secret-like values"
    none [("leaks", .arr (leaks.map .str))]]

/-! ## The output schema -/

/-- The schema an output must satisfy: the work unit's own, or else the recipe's. -/
def configuredSchema (recipe : VerifierRecipe) (workUnit : Option JsonObject) : JsonObject :=
  match workUnit.map (fun fields => Json.get fields "output_schema") with
  | some (.obj (field :: rest)) => field :: rest
  | _ => recipe.outputSchema

/-- Check an output against the configured schema. -/
def checkOutputSchema (platform : VerifierPlatform) (envelope : WorkUnitResultEnvelope)
    (recipe : VerifierRecipe) (workUnit : Option JsonObject) :
    Except Raised (List VerifierCheckResult) :=
  let schema := configuredSchema recipe workUnit
  if schema.isEmpty then .ok [skippedCheck "output_schema" "no output schema configured"]
  else
    (platform.validate schema (.obj envelope.output)).map (fun violation =>
      match violation with
      | none => [passedCheck "output_schema"]
      | some path =>
        [failedCheck "output_schema" "output does not validate against configured schema" none
          [("error_path", .arr path)]])

end Checks

end TokenBank
