import TokenBank.Guarantees.Rescoring
import TokenBank.Guarantees.Scanning

/-!
# What the preflight makes of the signals it finds

The levels of a report follow from the findings of the scan and from the difficulty of the task. A
later signal takes the place of an earlier one, so that private data in a demanding task raises it
less than its difficulty alone. The scan itself reads the strings that are values, and no keys.
-/

namespace TokenBank

namespace TaskAnalyzer

/-! ## Levels -/

/-- A report honours every signal it found in a work unit. -/
structure Honoured (workUnit : WorkUnit) (report : TaskAnalysisReport) : Prop where
  level : workUnit.taskLevel.rank ≤ report.effectiveTaskLevel.rank
  privateData : report.privacyScan.privateDataDetected = true →
    TaskLevel.l1.rank ≤ report.effectiveTaskLevel.rank
  rawSecret : report.privacyScan.rawSecretDetected = true →
    TaskLevel.l2.rank ≤ report.effectiveTaskLevel.rank
  difficulty : report.complexity.difficulty = .high ∨ report.complexity.difficulty = .expert →
    TaskLevel.l2.rank ≤ report.effectiveTaskLevel.rank
  privacy : workUnit.privacyLevel.rank ≤ report.effectivePrivacyLevel.rank
  sensitive : report.privacyScan.rawSecretDetected = true ∨
    report.privacyScan.privateDataDetected = true → report.effectivePrivacyLevel = .sensitive

/-- A task is demanding by its type or by the size of its input. -/
def Demanding (pack : LoadedRoutebookV1) (workUnit : WorkUnit) : Prop :=
  (pack.defaults workUnit.taskType).difficulty = "high" ∨
    (pack.defaults workUnit.taskType).difficulty = "expert" ∨
    16000 ≤ (estimateTokens workUnit.taskType workUnit.inlineInput).estimatedTotalTokens

/-- A difficulty is read from its own text only. -/
theorem ofText_eq_some_iff (text : String) (difficulty : TaskDifficulty) :
    TaskDifficulty.ofText text = some difficulty ↔ text = difficulty.text := by
  constructor
  · intro read
    unfold TaskDifficulty.ofText at read
    split at read <;> cases read <;> rfl
  · rintro rfl
    cases difficulty <;> rfl

/-- A difficulty is high or more exactly if the assumed one is or the input is large. -/
theorem raiseDifficulty_high_iff (baseDifficulty : String) (tokenTotal jsonDepth : Nat)
    (difficulty : TaskDifficulty)
    (raised : raiseDifficulty baseDifficulty tokenTotal jsonDepth = .ok difficulty) :
    (difficulty = .high ∨ difficulty = .expert) ↔
      baseDifficulty = "high" ∨ baseDifficulty = "expert" ∨ 16000 ≤ tokenTotal := by
  have high : baseDifficulty = "high" ↔ TaskDifficulty.ofText baseDifficulty = some .high :=
    (ofText_eq_some_iff _ .high).symm
  have expert : baseDifficulty = "expert" ↔ TaskDifficulty.ofText baseDifficulty = some .expert :=
    (ofText_eq_some_iff _ .expert).symm
  rw [high, expert]
  unfold raiseDifficulty at raised
  generalize TaskDifficulty.ofText baseDifficulty = base at raised ⊢
  have large : (inputDifficulty tokenTotal jsonDepth = some .high ∨
      inputDifficulty tokenTotal jsonDepth = some .expert) ↔ 16000 ≤ tokenTotal := by
    unfold inputDifficulty
    split_ifs <;> simp <;> omega
  rw [← large]
  generalize inputDifficulty tokenTotal jsonDepth = amount at raised ⊢
  rcases amount with _ | target <;> rcases base with _ | base
  · cases raised
  · cases base <;> simp [TaskDifficulty.rank] at raised <;> simp [← raised]
  · cases target <;> simp [TaskDifficulty.rank] at raised <;> simp [← raised]
  · cases target <;> cases base <;> simp [TaskDifficulty.rank] at raised <;> simp [← raised]

/-- The difficulty of a task does not depend on its plan. -/
theorem complexityEstimate_difficulty (defaults : TaskTypeDefaults) (inputShape : InputShape)
    (tokenTotal : Nat) (routePlan : Option RoutePlan) (complexity : ComplexityEstimate)
    (estimated : complexityEstimate defaults inputShape tokenTotal routePlan = .ok complexity) :
    raiseDifficulty defaults.difficulty tokenTotal inputShape.jsonDepth =
      .ok complexity.difficulty := by
  simp only [complexityEstimate, Store.bind_ok_iff] at estimated
  obtain ⟨difficulty, raised, returned⟩ := estimated
  rw [raised, ← Except.ok.inj returned]

/-- What a report says of the levels follows from its other findings. -/
theorem analyze_levels (runtime : PythonRuntime) (pricing : List JsonObject)
    (pack : LoadedRoutebookV1) (workUnit : WorkUnit) (routePlan : Option RoutePlan)
    (report : TaskAnalysisReport)
    (analyzed : analyze runtime pricing pack workUnit routePlan = .ok report) :
    report.privacyScan = PrivacyPreflight.scanPrivacy runtime (.obj workUnit.inlineInput) ∧
      ((report.complexity.difficulty = .high ∨ report.complexity.difficulty = .expert) ↔
        Demanding pack workUnit) ∧
      report.effectiveTaskLevel = raisedTaskLevel workUnit.taskLevel report.complexity.difficulty
        report.privacyScan.rawSecretDetected report.privacyScan.privateDataDetected ∧
      report.effectivePrivacyLevel = raisedPrivacyLevel workUnit.privacyLevel
        report.privacyScan.rawSecretDetected report.privacyScan.privateDataDetected ∧
      (report.privacyScan.rawSecretDetected = true → report.preflightDecision = .deny) := by
  simp only [analyze, Store.bind_ok_iff] at analyzed
  obtain ⟨complexity, estimated, cost, -, routebookId, -, version, -, returned⟩ := analyzed
  have raised := complexityEstimate_difficulty _ _ _ _ _ estimated
  cases Except.ok.inj returned
  refine ⟨rfl, raiseDifficulty_high_iff _ _ _ _ raised, rfl, rfl, fun secret => ?_⟩
  change (PrivacyPreflight.scanPrivacy runtime (.obj workUnit.inlineInput)).rawSecretDetected = true
    at secret
  simp only [secret, Bool.true_or, if_true]

/-- A task level is raised as every signal asks, except that private data takes the place of a high
difficulty where there is no raw secret. -/
theorem raisedTaskLevel_honours_iff (current : TaskLevel) (difficulty : TaskDifficulty)
    (rawSecret privateData : Bool) :
    (current.rank ≤ (raisedTaskLevel current difficulty rawSecret privateData).rank ∧
      (privateData = true →
        TaskLevel.l1.rank ≤ (raisedTaskLevel current difficulty rawSecret privateData).rank) ∧
      (rawSecret = true →
        TaskLevel.l2.rank ≤ (raisedTaskLevel current difficulty rawSecret privateData).rank) ∧
      (difficulty = .high ∨ difficulty = .expert →
        TaskLevel.l2.rank ≤ (raisedTaskLevel current difficulty rawSecret privateData).rank)) ↔
    ¬ (current.rank < TaskLevel.l2.rank ∧ (difficulty = .high ∨ difficulty = .expert) ∧
      privateData = true ∧ rawSecret = false) := by
  cases current <;> cases difficulty <;> cases rawSecret <;> cases privateData <;> decide

/-- A privacy level is never lowered, and raised to sensitive by every finding. -/
theorem raisedPrivacyLevel_honours (current : PrivacyLevel) (rawSecret privateData : Bool) :
    current.rank ≤ (raisedPrivacyLevel current rawSecret privateData).rank ∧
      (rawSecret = true ∨ privateData = true →
        raisedPrivacyLevel current rawSecret privateData = .sensitive) := by
  cases current <;> cases rawSecret <;> cases privateData <;> decide

/-- A report honours every signal exactly unless a work unit below the second level is demanding,
has private data and no raw secret. -/
theorem signals_honoured_iff (runtime : PythonRuntime) (pricing : List JsonObject)
    (pack : LoadedRoutebookV1) (workUnit : WorkUnit) (routePlan : Option RoutePlan)
    (report : TaskAnalysisReport)
    (analyzed : analyze runtime pricing pack workUnit routePlan = .ok report) :
    Honoured workUnit report ↔
      ¬ (workUnit.taskLevel.rank < TaskLevel.l2.rank ∧ Demanding pack workUnit ∧
        (PrivacyPreflight.scanPrivacy runtime (.obj workUnit.inlineInput)).privateDataDetected = true ∧
        (PrivacyPreflight.scanPrivacy runtime (.obj workUnit.inlineInput)).rawSecretDetected =
          false) := by
  obtain ⟨scanned, demanding, level, privacy, -⟩ :=
    analyze_levels runtime pricing pack workUnit routePlan report analyzed
  rw [← scanned, ← demanding, ← raisedTaskLevel_honours_iff, ← level]
  obtain ⟨never_lowered, sensitive⟩ := raisedPrivacyLevel_honours workUnit.privacyLevel
    report.privacyScan.rawSecretDetected report.privacyScan.privateDataDetected
  rw [← privacy] at never_lowered sensitive
  constructor
  · exact fun honoured =>
      ⟨honoured.level, honoured.privateData, honoured.rawSecret, honoured.difficulty⟩
  · exact fun ⟨kept, privateData, rawSecret, difficulty⟩ =>
      ⟨kept, privateData, rawSecret, difficulty, never_lowered, sensitive⟩

/-- A pack in which one type of task is difficult. -/
def difficultPack : LoadedRoutebookV1 :=
  { Rescoring.plainPack with taskTypeDefaults := [("claim_extraction", { difficulty := "high" })] }

/-- A work unit of a difficult type. -/
def claimWorkUnit (text : String) : WorkUnit where
  workUnitId := "wu"
  runId := "run"
  taskType := "claim_extraction"
  taskLevel := .l1
  inlineInput := [("text", .str text)]
  createdAt := "2024-01-01T00:00:00Z"
  updatedAt := "2024-01-01T00:00:00Z"

/-- The signals of a difficult task without private data are honoured. -/
theorem signals_honoured_claims : ∃ report, analyze Rescoring.plainRuntime [] difficultPack
    (claimWorkUnit "no address here") none = .ok report ∧
      Honoured (claimWorkUnit "no address here") report := by
  have returns : (analyze Rescoring.plainRuntime [] difficultPack
      (claimWorkUnit "no address here") none).isOk = true := by decide
  cases analyzed : analyze Rescoring.plainRuntime [] difficultPack
      (claimWorkUnit "no address here") none with
  | error raised => rw [analyzed] at returns; cases returns
  | ok report =>
    refine ⟨report, rfl, (signals_honoured_iff _ _ _ _ _ _ analyzed).mpr (fun weakened => ?_)⟩
    have plain : (PrivacyPreflight.scanPrivacy Rescoring.plainRuntime
        (.obj (claimWorkUnit "no address here").inlineInput)).privateDataDetected = false := by
      decide
    rw [plain] at weakened
    cases weakened.2.2.1

/-- A difficult task with an address in it is raised to the first level only. -/
theorem signals_weakened : ((analyze Rescoring.plainRuntime [] difficultPack
    (claimWorkUnit "Contact jane@example.com") none).toOption.any (fun report =>
      report.complexity.difficulty = .high && report.privacyScan.privateDataDetected &&
        report.effectiveTaskLevel = .l1)) = true := by
  decide

/-! ## Keys -/

mutual
/-- Every key, at any depth. -/
def keyTexts : Json → List String
  | .arr items => itemKeys items
  | .obj fields => fieldKeys fields
  | _ => []

/-- The keys inside the items of an array. -/
def itemKeys : List Json → List String
  | [] => []
  | item :: rest => keyTexts item ++ itemKeys rest

/-- The keys of an object, and those inside its members. -/
def fieldKeys : List (String × Json) → List String
  | [] => []
  | (key, value) :: rest => key :: keyTexts value ++ fieldKeys rest
end

/-- One of the shapes of raw secrets occurs in a text. -/
def secretShaped (runtime : PythonRuntime) (text : String) : Bool :=
  PrivacyPreflight.rawSecretPatterns.any (fun pattern =>
    Text.occurs runtime.wordCharacter pattern.2 none text.toList)

/-- The scan detects a raw secret exactly if a string that is a value has the shape of one. -/
theorem rawSecretDetected_iff (runtime : PythonRuntime) (value : Json) :
    (PrivacyPreflight.scanPrivacy runtime value).rawSecretDetected = true ↔
      ∃ text ∈ PrivacyPreflight.stringValues value, secretShaped runtime text = true := by
  rw [← Bool.not_eq_false, Scanning.rawSecretDetected_false_iff]
  simp only [secretShaped, not_forall, Bool.not_eq_false, exists_prop]

/-- A secret in any string of an input, be it a value or a key, is detected and denied exactly if
there is one in a value wherever there is one in a key. -/
theorem secrets_denied_iff (runtime : PythonRuntime) (pricing : List JsonObject)
    (pack : LoadedRoutebookV1) (workUnit : WorkUnit) (routePlan : Option RoutePlan) :
    ((∃ text, (text ∈ PrivacyPreflight.stringValues (.obj workUnit.inlineInput) ∨
        text ∈ keyTexts (.obj workUnit.inlineInput)) ∧ secretShaped runtime text = true) →
      (PrivacyPreflight.scanPrivacy runtime (.obj workUnit.inlineInput)).rawSecretDetected = true ∧
        ∀ report, analyze runtime pricing pack workUnit routePlan = .ok report →
          report.preflightDecision = .deny) ↔
    ((∃ key ∈ keyTexts (.obj workUnit.inlineInput), secretShaped runtime key = true) →
      ∃ text ∈ PrivacyPreflight.stringValues (.obj workUnit.inlineInput),
        secretShaped runtime text = true) := by
  rw [rawSecretDetected_iff]
  constructor
  · rintro seen ⟨key, listed, shaped⟩
    exact (seen ⟨key, .inr listed, shaped⟩).1
  · rintro covered ⟨text, listed, shaped⟩
    have detected : ∃ text ∈ PrivacyPreflight.stringValues (.obj workUnit.inlineInput),
        secretShaped runtime text = true :=
      listed.elim (fun value => ⟨text, value, shaped⟩) (fun key => covered ⟨text, key, shaped⟩)
    refine ⟨detected, fun report analyzed => ?_⟩
    obtain ⟨scanned, -, -, -, denied⟩ :=
      analyze_levels runtime pricing pack workUnit routePlan report analyzed
    rw [scanned] at denied
    exact denied ((rawSecretDetected_iff runtime _).mpr detected)

/-- A work unit with a secret as a key. -/
def keyedWorkUnit : WorkUnit :=
  { claimWorkUnit "" with inlineInput := [("sk-testsecret1234567890", .str "value")] }

/-- A secret in a key is not detected, and its work unit is allowed. -/
theorem keyed_secret_allowed : secretShaped Rescoring.plainRuntime "sk-testsecret1234567890" = true ∧
    "sk-testsecret1234567890" ∈ keyTexts (.obj keyedWorkUnit.inlineInput) ∧
    (PrivacyPreflight.scanPrivacy Rescoring.plainRuntime
      (.obj keyedWorkUnit.inlineInput)).rawSecretDetected = false ∧
    ((analyze Rescoring.plainRuntime [] difficultPack keyedWorkUnit none).toOption.any
      (fun report => report.preflightDecision = .allow)) = true := by
  decide

end TaskAnalyzer

end TokenBank
