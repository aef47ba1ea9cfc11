import TokenBank.Backends.LocalScript
import TokenBank.Core.Likeness
import TokenBank.Guarantees.CapacityTable
import TokenBank.Guarantees.Executions

/-!
# Deduplication is exact

Items have one canonical text exactly if they are alike up to the order of keys, and a hash
function that tells canonical texts apart gives each text its own digest. So the items that
are kept are the first occurrences, in the order of the input, and every other item is
counted as a duplicate of one of them.
-/

namespace TokenBank

open Canonical

namespace LocalScriptAdapter

/-- The hash function tells the canonical texts of plain values apart. -/
def SeparatesTexts (sha256 : String → String) : Prop :=
  ∀ one other : Json, plain one = true → plain other = true →
    Hashes.Separates sha256 (canonicalJsonDumps one) (canonicalJsonDumps other)

/-- The unique items are the first occurrences in the order of the input, no two of them are
alike, every item is like one of them, and no item is lost from the count. -/
structure Exact (items unique : List Json) (duplicates : Nat) : Prop where
  firsts : unique = Duplicates.firsts Json.alike items
  apart : unique.Pairwise (fun one other => Json.alike one other = false)
  covered : ∀ item ∈ items, ∃ kept ∈ unique, Json.alike item kept = true
  counted : unique.length + duplicates = items.length

/-- An output gives unique items and the number of duplicates among some items. -/
def Deduplicates (items : List Json) (output : JsonObject) : Prop :=
  ∃ unique duplicates, Json.get output "unique_items" = .arr unique ∧
    Json.get output "duplicate_count" = .nat duplicates ∧ Exact items unique duplicates

section Items

variable (sha256 : String → String) (separates : SeparatesTexts sha256) (items : List Json)
  (written : ∀ item ∈ items, plain item = true)

include separates written

/-- Items have one hash exactly if they are alike. -/
theorem same_hash_iff : ∀ one ∈ items, ∀ other ∈ items,
    canonicalJsonHash sha256 one = canonicalJsonHash sha256 other ↔ Json.alike one other = true := by
  intro one oneMember other otherMember
  have plainOne := written one oneMember
  have plainOther := written other otherMember
  rw [alike_iff_text one other plainOne plainOther]
  constructor
  · exact separates one other plainOne plainOther
  · exact congrArg sha256

/-- What the loop over the items keeps and counts is exact. -/
theorem dedup_items_exact : Exact items (dedup sha256 items).kept (dedup sha256 items).repeated := by
  have agrees := same_hash_iff sha256 separates items written
  have kept := Duplicates.kept_firsts (canonicalJsonHash sha256) Json.alike items agrees
  have inItems := (Duplicates.kept_sublist (canonicalJsonHash sha256) items).subset
  refine ⟨kept, ?_, ?_, Duplicates.kept_length _ items⟩
  · refine List.Pairwise.imp_of_mem ?_ (Duplicates.kept_distinct (canonicalJsonHash sha256) items).1
    intro one other oneMember otherMember differ
    rw [Bool.eq_false_iff]
    exact fun alike => differ
      ((agrees one (inItems oneMember) other (inItems otherMember)).mpr alike)
  · intro item member
    obtain ⟨unique, uniqueMember, same⟩ :=
      Duplicates.kept_covers (canonicalJsonHash sha256) items item member
    exact ⟨unique, uniqueMember,
      (agrees item member unique (inItems uniqueMember)).mp same.symm⟩

/-- A key that no document may have is in one of the items exactly if it is in one of the unique
ones. -/
theorem forbidden_kept : BaseModel.itemsForbidden (dedup sha256 items).kept =
    BaseModel.itemsForbidden items := by
  have exact := dedup_items_exact sha256 separates items written
  rw [itemsForbidden_any, itemsForbidden_any, Bool.eq_iff_iff, List.any_eq_true, List.any_eq_true]
  have inItems := (Duplicates.kept_sublist (canonicalJsonHash sha256) items).subset
  constructor
  · rintro ⟨unique, member, forbidden⟩
    exact ⟨unique, inItems member, forbidden⟩
  · rintro ⟨item, member, forbidden⟩
    obtain ⟨unique, uniqueMember, alike⟩ := exact.covered item member
    refine ⟨unique, uniqueMember, ?_⟩
    have same := (alike_iff_ordered item unique (written item member)
      (written unique (inItems uniqueMember))).mp alike
    rw [← hasForbiddenKey_ordered unique, ← same, hasForbiddenKey_ordered item]
    exact forbidden

omit separates in
/-- The output of a dedup is as it is validated. -/
theorem dedupOutput_settled (library : ModelLibrary) :
    library.mapping (dedupOutput sha256 items) = dedupOutput sha256 items := by
  refine library.mapping_of_keys _ ?_ ?_
  · have kept : plain (.arr (dedup sha256 items).kept) = true := by
      rw [plain, plainItems_iff]
      intro unique member
      exact written unique ((Duplicates.kept_sublist (canonicalJsonHash sha256) items).subset member)
    refine plain_obj _ ["ok", "tool", "unique_items", "duplicate_count",
      "local_script_scaffold"] rfl (by decide) ?_
    simp only [dedupOutput, plainFields, kept, plain_bool, plain_str, plain_nat, Bool.and_true]
  · intro field member
    have named : field.1 ∈ (dedupOutput sha256 items).map Prod.fst :=
      List.mem_map.mpr ⟨field, member, rfl⟩
    have trimmed : ∀ key ∈ ["ok", "tool", "unique_items", "duplicate_count",
        "local_script_scaffold"], BaseModel.stripped key = key := by decide
    rw [ModelLibrary.key]
    split_ifs
    · exact trimmed field.1 named
    · rfl

end Items

variable (platform : BackendPlatform) (clock : ExecutionClock) (context : ExecutionContext)
  (items : List Json)

/-- An output is allowed as far as the unique items are. -/
theorem dedupOutput_forbidden (sha256 : String → String) :
    BaseModel.hasForbiddenKey (.obj (dedupOutput sha256 items)) =
      BaseModel.itemsForbidden (dedup sha256 items).kept := by
  rw [hasForbiddenKey_named _ ["ok", "tool", "unique_items", "duplicate_count",
    "local_script_scaffold"] rfl (by decide)]
  simp [dedupOutput, BaseModel.hasForbiddenKey, Json.nat]

/-- An execution succeeds exactly through the envelope of a dedup whose script is not denied. -/
theorem execute_succeeded_iff (envelope : WorkUnitResultEnvelope)
    (given : Json.getOr context.inputPayload "items" (.arr []) = .arr items) :
    execute platform clock context = .ok envelope ∧ envelope.status = .succeeded ↔
      hashDenied context.effectiveConstraints = .ok false ∧
      ∃ usage, Backends.makeUsageRecord platform.sha256 clock.recordedAt context.workUnitId
          context.attemptId context.backendId .zeroInternalPhase0 .high = .ok usage ∧
        Adapter.buildResultEnvelope platform.library platform.sha256
          context.toBackendExecutionContext (dedupOutput platform.sha256 items) [usage]
          clock.startedAt clock.completedAt "succeeded" []
          ["dedup local_script scaffold completed"] = .ok envelope := by
  simp only [execute, Store.bind_ok_iff]
  constructor
  · rintro ⟨⟨usage, used, denied, checked, returned⟩, succeeded⟩
    cases denied with
    | true =>
      simp only [if_true, Store.bind_ok_iff] at returned
      obtain ⟨error, -, built⟩ := returned
      have failed := (Backends.built_output _ _ _ _ _ _ _ .failed _ _ _ _ _ built).2.1
      exact absurd (failed.symm.trans succeeded) (by decide)
    | false =>
      simp only [Bool.false_eq_true, if_false, given] at returned
      exact ⟨checked, usage, used, returned⟩
  · rintro ⟨checked, usage, used, built⟩
    refine ⟨⟨usage, used, false, checked, ?_⟩,
      (Backends.built_output _ _ _ _ _ _ _ .succeeded _ _ _ _ _ built).2.1⟩
    simp only [Bool.false_eq_true, if_false, given]
    exact built

/-- For every list of items, an execution succeeds exactly if its script is not denied, its ids
are not blank and no item has a key that no document may have. The output of an execution that
succeeds is exact. -/
theorem dedup_exact (separates : SeparatesTexts platform.sha256)
    (given : Json.getOr context.inputPayload "items" (.arr []) = .arr items)
    (written : ∀ item ∈ items, plain item = true) :
    (∀ envelope, execute platform clock context = .ok envelope → envelope.status = .succeeded →
      Deduplicates items envelope.output) ∧
    ((∃ envelope, execute platform clock context = .ok envelope ∧ envelope.status = .succeeded) ↔
      hashDenied context.effectiveConstraints = .ok false ∧ context.Identified ∧
        BaseModel.itemsForbidden items = false) := by
  constructor
  · intro envelope executed succeeded
    obtain ⟨-, usage, -, built⟩ := (execute_succeeded_iff platform clock context items envelope
      given).mp ⟨executed, succeeded⟩
    have output := (Backends.built_output _ _ _ _ _ _ _ .succeeded _ _ _ _ _ built).1
    rw [dedupOutput_settled platform.sha256 items written] at output
    rw [output]
    exact ⟨_, _, rfl, rfl, dedup_items_exact platform.sha256 separates items written⟩
  · simp only [execute_succeeded_iff platform clock context items _ given, exists_and_left]
    refine and_congr_right fun _ => ?_
    rw [← forbidden_kept platform.sha256 separates items written,
      ← dedupOutput_forbidden items platform.sha256]
    constructor
    · rintro ⟨envelope, usage, -, built⟩
      obtain ⟨-, -, allowed, filled⟩ :=
        Backends.built_output _ _ _ _ _ _ _ .succeeded _ _ _ _ _ built
      exact ⟨filled, allowed⟩
    · rintro ⟨identified, allowed⟩
      obtain ⟨usage, used⟩ := (Backends.makeUsageRecord_returns_iff platform.sha256
        clock.recordedAt context.workUnitId context.attemptId context.backendId
        .zeroInternalPhase0 .high 0 0 0 0).mpr
        ⟨identified _ (by simp), identified _ (by simp), identified _ (by simp)⟩
      obtain ⟨envelope, built⟩ := (Backends.built_returns_iff platform.library platform.sha256
        context.toBackendExecutionContext _ [usage] clock.startedAt clock.completedAt .succeeded
        [] ["dedup local_script scaffold completed"] none none platform.named).mpr
        ⟨allowed, identified⟩
      exact ⟨envelope, usage, used, built⟩

/-- The platform of a sample execution. -/
def samplePlatform : BackendPlatform :=
  ⟨Hashes.sampleLibrary, CapacityTable.framed.sha256, CapacityTable.framed.named⟩

/-- The clock of a sample execution. -/
def sampleClock : ExecutionClock :=
  ⟨Hashes.sampleTime, Hashes.sampleTime, "2026-01-01T00:00:00Z", "2026-01-01T00:00:00Z"⟩

/-- Items of which the third is like the first and the fifth like the second. -/
def sampleItems : List Json :=
  [.obj [("a", .int 1), ("b", .arr [])], .int 1, .obj [("b", .arr []), ("a", .int 1)],
    .float "1.0", .int 1, .bool true]

/-- An execution on the sample items. -/
def sampleContext : ExecutionContext where
  toBackendExecutionContext := Hashes.sampleContext "local_script"
  taskType := "dedup"
  inputPayload := [("items", .arr sampleItems)]

/-- Two of six items are duplicates. -/
theorem dedup_exact_sample :
    (∀ envelope, execute samplePlatform sampleClock sampleContext = .ok envelope →
      envelope.status = .succeeded → Deduplicates sampleItems envelope.output) ∧
    ∃ envelope, execute samplePlatform sampleClock sampleContext = .ok envelope ∧
      envelope.status = .succeeded := by
  have exact := dedup_exact samplePlatform sampleClock sampleContext sampleItems
    (fun _ _ _ _ => CapacityTable.framed_separates _ _) rfl (by decide)
  exact ⟨exact.1, exact.2.mpr (by decide)⟩

end LocalScriptAdapter

end TokenBank
