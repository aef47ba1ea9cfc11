import TokenBank.Core.Remains
import TokenBank.Observability.Rules
import TokenBank.Worker.Logs

/-!
# What redaction leaves needs no more redaction

A value that was redacted is redacted to itself, and a dashboard keeps its strings. A message that was redacted for a log has no token, so that a log takes every
message.
-/

namespace TokenBank

namespace Redaction

/-- The replacement of a secret is no secret. -/
theorem redactText_marker : redactText redactedSecret = redactedSecret := by decide

mutual
/-- A redacted value is redacted to itself. -/
theorem redactSensitiveValue_again : ∀ value,
    redactSensitiveValue (redactSensitiveValue value) = redactSensitiveValue value
  | .null => rfl
  | .bool _ => rfl
  | .int _ => rfl
  | .float _ => rfl
  | .str text => by simp only [redactSensitiveValue, redactText_redactText]
  | .arr items => by simp only [redactSensitiveValue, redactItems_again items]
  | .obj fields => by simp only [redactSensitiveValue, redactFields_again fields]

/-- Redacted items are redacted to themselves. -/
theorem redactItems_again : ∀ items, redactItems (redactItems items) = redactItems items
  | [] => rfl
  | item :: rest => by
    simp only [redactItems, redactSensitiveValue_again item, redactItems_again rest]

/-- Redacted members are redacted to themselves: the keys are the same, and under a credential-like
key there is a marker already. -/
theorem redactFields_again : ∀ fields, redactFields (redactFields fields) = redactFields fields
  | [] => rfl
  | (key, value) :: rest => by
    simp only [redactFields, redactFields_again rest]
    split
    · rfl
    · rw [redactSensitiveValue_again value]
end

mutual
/-- A redacted value has no string left that a dashboard redacts. -/
theorem redactSecretLikeStrings_redacted : ∀ value,
    redactSecretLikeStrings (redactSensitiveValue value) = redactSensitiveValue value
  | .null => rfl
  | .bool _ => rfl
  | .int _ => rfl
  | .float _ => rfl
  | .str text => by
    simp only [redactSensitiveValue, redactSecretLikeStrings, redactText_redactText]
  | .arr items => by
    simp only [redactSensitiveValue, redactSecretLikeStrings, redactStringItems_redacted items]
  | .obj fields => by
    simp only [redactSensitiveValue, redactSecretLikeStrings, redactStringFields_redacted fields]

/-- Redacted items have no string left that a dashboard redacts. -/
theorem redactStringItems_redacted : ∀ items,
    redactStringItems (redactItems items) = redactItems items
  | [] => rfl
  | item :: rest => by
    simp only [redactItems, redactStringItems, redactSecretLikeStrings_redacted item,
      redactStringItems_redacted rest]

/-- Redacted members have no string left that a dashboard redacts. -/
theorem redactStringFields_redacted : ∀ fields,
    redactStringFields (redactFields fields) = redactFields fields
  | [] => rfl
  | (key, value) :: rest => by
    simp only [redactFields, redactStringFields, redactStringFields_redacted rest]
    split
    · simp only [redactSecretLikeStrings, redactSensitiveValue, redactText_marker]
    · rw [redactSecretLikeStrings_redacted value]
end

/-- Redaction is idempotent: what it leaves of a value stays as it is when it is redacted again, as
a value or for a dashboard. -/
theorem redaction_idempotent (value : Json) :
    redactSensitiveValue (redactSensitiveValue value) = redactSensitiveValue value ∧
      redactSecretLikeStrings (redactSensitiveValue value) = redactSensitiveValue value :=
  ⟨redactSensitiveValue_again value, redactSecretLikeStrings_redacted value⟩

end Redaction

namespace WorkerLog

open Redaction Text

/-! ## Messages -/

/-- A rule that hides what follows a group takes something behind the group. -/
theorem keepingGroup_bounded (group : List Element) : (keepingGroup group).Bounded := by
  refine fun text => captureLength_bounded _ (fun text length run => ?_) group none text
  obtain ⟨some, rfl⟩ := (runAfter_eq_some_iff 0 length visible text).mp run
  have within := (List.takeWhile_prefix visible (l := text)).length_le
  exact ⟨by simpa using List.length_pos_iff.mpr some, by omega⟩

/-- The rules by which a message is redacted, in their order. -/
def rules : List (Rule Char) :=
  defaultTokenPrefixPatterns.map (replacing redactedToken) ++
    leaseTokenRule :: workerSecretPatterns.map keepingGroup

/-- A message is redacted by one rule after the other. -/
theorem redactWorkerLog_rules (text : List Char) :
    redactWorkerLog text = rules.foldl (fun redacted rule => rule.apply redacted) text := by
  rw [rules, List.foldl_append, List.foldl_cons]
  rfl

/-- Every marker starts with a bracket and has no small letter. -/
theorem rules_marker : ∀ rule ∈ rules, ∃ others, rule.marker = '[' :: others ∧ 't' ∉ rule.marker := by
  simp only [rules, defaultTokenPrefixPatterns, leaseTokenRule, workerSecretPatterns, List.map_cons,
    List.map_nil, List.cons_append, List.nil_append, List.forall_mem_cons, List.not_mem_nil,
    false_implies, implies_true, and_true]
  refine ⟨?_, ?_, ?_, ?_, ?_, ?_, ?_⟩ <;> exact ⟨_, rfl, by decide⟩

/-- Every rule takes something of what it matches. -/
theorem rules_bounded : ∀ rule ∈ rules, rule.Bounded := by
  simp only [rules, defaultTokenPrefixPatterns, leaseTokenRule, workerSecretPatterns, List.map_cons,
    List.map_nil, List.cons_append, List.nil_append, List.forall_mem_cons, List.not_mem_nil,
    false_implies, implies_true, and_true]
  refine ⟨?_, ?_, ?_, ?_, keepingGroup_bounded _, keepingGroup_bounded _, keepingGroup_bounded _⟩ <;>
    exact replacing_bounded (by decide)

/-- No token of a kind that one of the rules replaces is left in a message. -/
theorem token_absent (replacement opening : String) (others : List Char) (inClass : Char → Bool)
    (starts : opening.toList = 't' :: others) (open_ : '[' ∉ opening.toList)
    (apart : inClass '[' = false)
    (listed : replacing replacement (literalThen opening inClass) ∈ rules) (message : List Char) :
    (redactWorkerLog message).tails.any
      (fun rest => (literalThen opening inClass rest).isSome) = false := by
  have reads := literalThen_reads opening inClass (by simp [starts])
  have absent : (replacing replacement (literalThen opening inClass)).Unmatched
      (redactWorkerLog message) := by
    rw [redactWorkerLog_rules]
    refine Rule.foldl_leaves rules message (fun rule member => ?_) ?_ (.inl listed)
    · obtain ⟨behind, marker, small⟩ := rules_marker rule member
      refine ⟨rules_bounded rule member, by simp [marker], ?_, ?_, ?_⟩
      · intro mark rest same
        obtain rfl : '[' = mark := (List.cons.inj (marker.symm.trans same)).1
        exact replacing_stops '[' open_ apart
      · intro character marked more
        exact replacing_unopened 't' others starts character (fun same => small (same ▸ marked)) more
      · intro text more
        simp only [replacing, Option.isSome_map]
        exact reads.extends_ text more
    · intro text kept length matched
      obtain ⟨found, here, same⟩ := Option.map_eq_some_iff.mp matched
      obtain ⟨rfl, -⟩ := Prod.mk.inj same
      intro rest within
      rw [List.take_zero, List.suffix_nil] at within
      subst within
      exact Rule.pattern_nil (replacing_bounded (by simp [starts]))
  rw [List.any_eq_false]
  intro rest within
  have unmatched := absent rest ((List.mem_tails _ _).mp within)
  rw [replacing, Option.map_eq_none_iff] at unmatched
  simp [unmatched]

/-- No redacted message has a token. -/
theorem redactWorkerLog_clean (message : List Char) :
    containsUnredactedWorkerSecret (redactWorkerLog message) = false := by
  simp only [containsUnredactedWorkerSecret, unredactedTokenPatterns, List.any_cons, List.any_nil,
    Bool.or_false, Bool.or_eq_false_iff]
  refine ⟨?_, ?_, ?_, ?_⟩
  · exact token_absent redactedToken "tbk_h_" ['b', 'k', '_', 'h', '_'] _ (by decide) (by decide)
      (by decide) List.mem_cons_self message
  · exact token_absent redactedToken "tbk_w_" ['b', 'k', '_', 'w', '_'] _ (by decide) (by decide)
      (by decide) (.tail _ List.mem_cons_self) message
  · exact token_absent redactedToken "tbk_i_" ['b', 'k', '_', 'i', '_'] _ (by decide) (by decide)
      (by decide) (.tail _ (.tail _ List.mem_cons_self)) message
  · exact token_absent redactedLeaseToken "tbk_l_" ['b', 'k', '_', 'l', '_'] _ (by decide)
      (by decide) (by decide) (.tail _ (.tail _ (.tail _ List.mem_cons_self))) message

/-- A message is written to a log as it is redacted. -/
theorem write_redacted (log message : List Char) :
    write log message = .ok (log ++ redactWorkerLog message ++ ['\n']) := by
  rw [write, redactWorkerLog_clean message]
  rfl

/-- No redacted message has a token, so that a log takes every message. -/
theorem log_takes_every_message (log message : List Char) :
    containsUnredactedWorkerSecret (redactWorkerLog message) = false ∧
      write log message = .ok (log ++ redactWorkerLog message ++ ['\n']) :=
  ⟨redactWorkerLog_clean message, write_redacted log message⟩

end WorkerLog

end TokenBank
