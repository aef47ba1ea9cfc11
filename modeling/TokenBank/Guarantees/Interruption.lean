import TokenBank.Db.Migrations

/-!
# Migrations that are interrupted

Statements that create something allow for its being there, and are repeated without an effect. A
column that is there is refused, and so is a version that is recorded. So applying migrations again
after an interruption completes them exactly if no column was added by a script whose version is not
recorded yet. In the shipped migrations such interruptions are those within the fourth script, from
its first statement on.
-/

namespace TokenBank

namespace Bootstrap

/-! ## Repeating a step -/

/-- The statement allows for what it creates. -/
def Statement.Guarded : Statement → Prop
  | .createTable _ ifNotExists _ => ifNotExists = true
  | .createIndex _ ifNotExists _ => ifNotExists = true
  | .addColumn _ _ => False

/-- The step is a statement that allows for what it creates. -/
def Step.Repeatable : Step → Prop
  | .statement _ executed => Statement.Guarded executed
  | .record _ => False

/-- What an executed step leaves behind. -/
def Left : Step → DatabaseFile → Prop
  | .statement _ (.createTable name _ _), file => (file.tables.find? name).isSome = true
  | .statement _ (.createIndex name _ schema), file =>
    (file.tables.find? schema.table).isSome = true ∧ file.tables.find? name = none ∧
      (file.indexes.find? name).isSome = true
  | .statement _ (.addColumn name column), file =>
    ∃ table, file.tables.find? name = some table ∧ column.name ∈ table.columns.map Column.name
  | .record version, file => version ∈ file.versions

/-- A table is created, or was there. -/
theorem createTable_ok_iff (name : String) (ifNotExists : Bool) (schema : TableSchema)
    (file after : DatabaseFile) : createTable name ifNotExists schema file = .ok after ↔
      ((file.tables.find? name).isSome = true ∧ ifNotExists = true ∧ after = file) ∨
        ∃ tables, file.tables.insert name schema = some tables ∧ file.indexes.find? name = none ∧
          after = { file with tables := tables } := by
  rw [Option.isSome_iff_ne_none, ← Store.Table.insert_none_iff file.tables name schema, createTable]
  cases file.tables.insert name schema with
  | none => cases ifNotExists <;> simp [eq_comm]
  | some tables => cases file.indexes.find? name <;> simp [eq_comm]

/-- An index is created on the columns of a table, or was there. -/
theorem createIndex_ok_iff (name : String) (ifNotExists : Bool) (schema : IndexSchema)
    (file after : DatabaseFile) : createIndex name ifNotExists schema file = .ok after ↔
      ∃ table, file.tables.find? schema.table = some table ∧ file.tables.find? name = none ∧
        (((file.indexes.find? name).isSome = true ∧ ifNotExists = true ∧ after = file) ∨
          ∃ indexes, file.indexes.insert name schema = some indexes ∧
            (∀ column ∈ schema.columns, column ∈ table.columns.map Column.name) ∧
            after = { file with indexes := indexes }) := by
  rw [Option.isSome_iff_ne_none, ← Store.Table.insert_none_iff file.indexes name schema, createIndex]
  cases file.tables.find? schema.table with
  | none => simp
  | some table =>
    cases file.tables.find? name with
    | some other => simp
    | none =>
      cases file.indexes.insert name schema with
      | none => cases ifNotExists <;> simp [eq_comm]
      | some indexes =>
        cases missing : schema.columns.find? (fun column => column ∉ table.columns.map Column.name)
          with
        | none =>
          have covered : ∀ column ∈ schema.columns, column ∈ table.columns.map Column.name := by
            simpa only [List.find?_eq_none, decide_eq_true_eq, Decidable.not_not] using missing
          simp only [Option.isSome_none, Bool.false_eq_true, if_false, missing, Except.ok.injEq,
            Option.some.injEq, exists_eq_left', true_and, reduceCtorEq, false_and, false_or]
          exact ⟨fun same => ⟨covered, same.symm⟩, fun holds => holds.2.symm⟩
        | some column =>
          have absent : column ∉ table.columns.map Column.name := by
            simpa only [decide_eq_true_eq] using List.find?_some missing
          have uncovered : ¬∀ column ∈ schema.columns, column ∈ table.columns.map Column.name :=
            fun covered => absent (covered column (List.mem_of_find?_eq_some missing))
          simp only [Option.isSome_none, Bool.false_eq_true, if_false, missing, reduceCtorEq,
            Option.some.injEq, exists_eq_left', true_and, false_and, false_or, uncovered]

/-- A column is added to a table that has none of its name. -/
theorem addColumn_ok_iff (name : String) (column : Column) (file after : DatabaseFile) :
    addColumn name column file = .ok after ↔
      ∃ table, file.tables.find? name = some table ∧
        column.name ∉ table.columns.map Column.name ∧
        after = { file with tables := file.tables.modify name (fun table =>
          { table with columns := table.columns ++ [column] }) } := by
  unfold addColumn
  cases file.tables.find? name with
  | none => simp
  | some table =>
    by_cases present : column.name ∈ table.columns.map Column.name
    · simp only [present, if_true, reduceCtorEq, Option.some.injEq, exists_eq_left',
        not_true_eq_false, false_and]
    · simp only [present, if_false, Except.ok.injEq, Option.some.injEq, exists_eq_left',
        not_false_eq_true, true_and, eq_comm]

/-- A version is recorded once. -/
theorem recordVersion_ok_iff (version : String) (file after : DatabaseFile) :
    recordVersion version file = .ok after ↔ version ∉ file.versions ∧
      after = { file with versions := file.versions ++ [version] } := by
  unfold recordVersion
  by_cases present : version ∈ file.versions <;> simp [present, eq_comm]

/-- Nothing is dropped: tables gain columns only, indexes and versions stay, and the name of an index
stays free of tables. -/
structure Extends (before after : DatabaseFile) : Prop where
  tables : ∀ name table, before.tables.find? name = some table → ∃ more,
    after.tables.find? name = some { table with columns := table.columns ++ more }
  indexes : ∀ name index, before.indexes.find? name = some index →
    after.indexes.find? name = some index
  versions : ∀ version ∈ before.versions, version ∈ after.versions
  free : ∀ name, (before.indexes.find? name).isSome = true → before.tables.find? name = none →
    after.tables.find? name = none

/-- A database file extends itself. -/
theorem Extends.refl (file : DatabaseFile) : Extends file file where
  tables _ table found := ⟨[], by simpa using found⟩
  indexes _ _ found := found
  versions _ member := member
  free _ _ absent := absent

/-- A step drops nothing. -/
theorem executeStep_extends (step : Step) (file after : DatabaseFile)
    (executed : executeStep step file = .ok after) : Extends file after := by
  cases step with
  | statement version statement =>
    cases statement with
    | createTable name ifNotExists schema =>
      rcases (createTable_ok_iff name ifNotExists schema file after).mp executed with
        ⟨-, -, rfl⟩ | ⟨tables, inserted, unindexed, rfl⟩
      · exact .refl after
      have absent := ((Store.Table.insert_some_iff _ _ _ _).mp inserted).1
      have read := Store.Table.find?_insert _ _ _ _ inserted
      refine ⟨fun other table found => ⟨[], ?_⟩, fun _ _ found => found, fun _ member => member,
        fun other indexed free => ?_⟩
      · have differs : other ≠ name := by
          rintro rfl
          simp [absent] at found
        rw [read, if_neg differs, found, List.append_nil]
      · have differs : other ≠ name := by
          rintro rfl
          simp [unindexed] at indexed
        rw [read, if_neg differs, free]
    | createIndex name ifNotExists schema =>
      obtain ⟨table, -, -, ⟨-, -, rfl⟩ | ⟨indexes, inserted, -, rfl⟩⟩ :=
        (createIndex_ok_iff name ifNotExists schema file after).mp executed
      · exact .refl after
      have absent := ((Store.Table.insert_some_iff _ _ _ _).mp inserted).1
      refine ⟨fun _ _ found => ⟨[], by simpa using found⟩, fun other index found => ?_,
        fun _ member => member, fun _ _ free => free⟩
      have differs : other ≠ name := by
        rintro rfl
        simp [absent] at found
      rw [Store.Table.find?_insert _ _ _ _ inserted, if_neg differs, found]
    | addColumn name column =>
      obtain ⟨table, found, -, rfl⟩ := (addColumn_ok_iff name column file after).mp executed
      refine ⟨fun other schema read => ?_, fun _ _ found => found, fun _ member => member,
        fun other _ free => ?_⟩
      · by_cases same : other = name
        · subst same
          exact ⟨[column], by simp [Store.Table.find?_modify_map, read]⟩
        · exact ⟨[], by simp [Store.Table.find?_modify_map, read, same]⟩
      · simp [Store.Table.find?_modify_map, free]
  | record version =>
    obtain ⟨-, rfl⟩ := (recordVersion_ok_iff version file after).mp executed
    exact ⟨fun _ _ found => ⟨[], by simpa using found⟩, fun _ _ found => found,
      fun _ member => List.mem_append_left _ member, fun _ _ free => free⟩

/-- Statements can be repeated if they allow for what they create, and nothing else can. -/
theorem redoable : Store.Redoable executeStep Left Step.Repeatable where
  leaves := by
    rintro (⟨version, statement⟩ | version) file after executed
    · cases statement with
      | createTable name ifNotExists schema =>
        rcases (createTable_ok_iff name ifNotExists schema file after).mp executed with
          ⟨present, -, rfl⟩ | ⟨tables, inserted, -, rfl⟩
        · exact present
        · simp [Left, Store.Table.find?_insert _ _ _ _ inserted]
      | createIndex name ifNotExists schema =>
        obtain ⟨table, found, free, ⟨present, -, rfl⟩ | ⟨indexes, inserted, -, rfl⟩⟩ :=
          (createIndex_ok_iff name ifNotExists schema file after).mp executed
        · exact ⟨by simp [found], free, present⟩
        · exact ⟨by simp [found], free, by simp [Store.Table.find?_insert _ _ _ _ inserted]⟩
      | addColumn name column =>
        obtain ⟨table, found, -, rfl⟩ := (addColumn_ok_iff name column file after).mp executed
        exact ⟨{ table with columns := table.columns ++ [column] },
          by simp only [Store.Table.find?_modify_map, found, Option.map_some, if_true], by simp⟩
    · obtain ⟨-, rfl⟩ := (recordVersion_ok_iff version file after).mp executed
      simp [Left]
  keeps := by
    rintro (⟨version, statement⟩ | version) other file after left executed
    · have extended := executeStep_extends other file after executed
      cases statement with
      | createTable name ifNotExists schema =>
        obtain ⟨table, found⟩ := Option.isSome_iff_exists.mp left
        obtain ⟨more, read⟩ := extended.tables name table found
        simp [Left, read]
      | createIndex name ifNotExists schema =>
        obtain ⟨covers, free, present⟩ := left
        obtain ⟨table, found⟩ := Option.isSome_iff_exists.mp covers
        obtain ⟨more, read⟩ := extended.tables schema.table table found
        obtain ⟨index, stored⟩ := Option.isSome_iff_exists.mp present
        exact ⟨by simp [read], extended.free name present free,
          by simp [extended.indexes name index stored]⟩
      | addColumn name column =>
        obtain ⟨table, found, member⟩ := left
        obtain ⟨more, read⟩ := extended.tables name table found
        exact ⟨_, read, by
          rw [List.map_append]
          exact List.mem_append_left _ member⟩
    · exact (executeStep_extends other file after executed).versions version left
  repeats := by
    rintro (⟨version, statement⟩ | version) file left again
    · cases statement with
      | createTable name ifNotExists schema =>
        exact (createTable_ok_iff name ifNotExists schema file file).mpr (.inl ⟨left, again, rfl⟩)
      | createIndex name ifNotExists schema =>
        obtain ⟨covers, free, present⟩ := left
        obtain ⟨table, found⟩ := Option.isSome_iff_exists.mp covers
        exact (createIndex_ok_iff name ifNotExists schema file file).mpr
          ⟨table, found, free, .inl ⟨present, again, rfl⟩⟩
      | addColumn name column => cases again
    · cases again
  refuses := by
    rintro step file left once
    cases executed : executeStep step file with
    | error error => exact ⟨error, rfl⟩
    | ok after =>
      exfalso
      obtain ⟨version, statement⟩ | version := step
      · cases statement with
        | createTable name ifNotExists schema =>
          rcases (createTable_ok_iff name ifNotExists schema file after).mp executed with
            ⟨-, guarded, -⟩ | ⟨tables, inserted, -⟩
          · exact once guarded
          · simp [Left, ((Store.Table.insert_some_iff _ _ _ _).mp inserted).1] at left
        | createIndex name ifNotExists schema =>
          obtain ⟨table, -, -, ⟨-, guarded, -⟩ | ⟨indexes, inserted, -⟩⟩ :=
            (createIndex_ok_iff name ifNotExists schema file after).mp executed
          · exact once guarded
          · simp [Left, ((Store.Table.insert_some_iff _ _ _ _).mp inserted).1] at left
        | addColumn name column =>
          obtain ⟨table, found, member⟩ := left
          obtain ⟨other, read, absent, -⟩ := (addColumn_ok_iff name column file after).mp executed
          have same_table := Option.some.inj (found.symm.trans read)
          subst same_table
          exact absent member
      · exact ((recordVersion_ok_iff version file after).mp executed).1 left

/-! ## Repeating a run -/

/-- Only the record of a version changes the recorded versions. -/
theorem executeStep_versions (step : Step) (file after : DatabaseFile)
    (executed : executeStep step file = .ok after) : after.versions = match step with
      | .statement _ _ => file.versions
      | .record version => file.versions ++ [version] := by
  cases step with
  | statement version statement =>
    cases statement with
    | createTable name ifNotExists schema =>
      rcases (createTable_ok_iff name ifNotExists schema file after).mp executed with
        ⟨-, -, rfl⟩ | ⟨tables, -, -, rfl⟩ <;> rfl
    | createIndex name ifNotExists schema =>
      obtain ⟨table, -, -, ⟨-, -, rfl⟩ | ⟨indexes, -, -, rfl⟩⟩ :=
        (createIndex_ok_iff name ifNotExists schema file after).mp executed <;> rfl
    | addColumn name column =>
      obtain ⟨table, -, -, rfl⟩ := (addColumn_ok_iff name column file after).mp executed
      rfl
  | record version =>
    obtain ⟨-, rfl⟩ := (recordVersion_ok_iff version file after).mp executed
    rfl

/-- Statements leave the recorded versions. -/
theorem statements_versions (version : String) (statements : List Statement)
    (file after : DatabaseFile)
    (executed : Store.executeAll executeStep (statements.map (.statement version)) file = .ok after) :
    after.versions = file.versions := by
  induction statements generalizing file with
  | nil =>
    cases executed
    rfl
  | cons statement rest inductionHypothesis =>
    obtain ⟨between, here, later⟩ := (Store.bind_ok_iff _ _ _).mp executed
    rw [inductionHypothesis between later]
    exact executeStep_versions _ file between here

/-- The steps of a migration record its version. -/
theorem steps_versions (migration : Migration) (file after : DatabaseFile)
    (executed : Store.executeAll executeStep (scriptSteps migration) file = .ok after) :
    after.versions = file.versions ++ [migration.version] := by
  obtain ⟨between, statements, recorded⟩ := (Store.executeAll_append executeStep _ _ _ _).mp executed
  obtain ⟨last, record, same⟩ := (Store.bind_ok_iff _ _ _).mp recorded
  cases same
  rw [← statements_versions migration.version migration.statements file between statements]
  exact executeStep_versions _ between after record

/-- Recorded versions stay recorded. -/
theorem executeAll_versions (steps : List Step) (file after : DatabaseFile) (version : String)
    (recorded : version ∈ file.versions)
    (executed : Store.executeAll executeStep steps file = .ok after) : version ∈ after.versions :=
  Store.executeAll_keeps executeStep (fun file => version ∈ file.versions)
    (fun step file after member done => (executeStep_extends step file after done).versions _ member)
    steps file after recorded executed

/-- A recorded migration is left out. -/
theorem pendingSteps_recorded (migration : Migration) (migrations : List Migration)
    (existing : List String) (recorded : migration.version ∈ existing) :
    pendingSteps (migration :: migrations) existing = pendingSteps migrations existing := by
  simp [pendingSteps, unapplied, recorded]

/-- An unrecorded migration is applied before the later ones. -/
theorem pendingSteps_unrecorded (migration : Migration) (migrations : List Migration)
    (existing : List String) (unrecorded : migration.version ∉ existing) :
    pendingSteps (migration :: migrations) existing =
      scriptSteps migration ++ pendingSteps migrations existing := by
  simp [pendingSteps, unapplied, unrecorded]

/-- The record of another version leaves out nothing. -/
theorem pendingSteps_other (migrations : List Migration) (existing : List String)
    (version : String) (other : version ∉ migrations.map Migration.version) :
    pendingSteps migrations (existing ++ [version]) = pendingSteps migrations existing := by
  unfold pendingSteps unapplied
  congr 1
  apply List.filter_congr
  intro migration listed
  have differs : migration.version ≠ version := fun same =>
    other (List.mem_map.mpr ⟨migration, listed, same⟩)
  simp [differs]

/-- Pending statements are of scripts of the list. -/
theorem pendingSteps_statement (migrations : List Migration) (existing : List String)
    (version : String) (statement : Statement)
    (member : .statement version statement ∈ pendingSteps migrations existing) :
    ∃ migration ∈ migrations, version = migration.version ∧ statement ∈ migration.statements := by
  obtain ⟨migration, listed, step⟩ := List.mem_flatMap.mp member
  simp only [scriptSteps, List.mem_append, List.mem_map, Step.statement.injEq,
    List.mem_singleton, reduceCtorEq, or_false] at step
  obtain ⟨_, own, same, rfl⟩ := step
  exact ⟨migration, (List.mem_filter.mp listed).1, same.symm, own⟩

/-- Each executed statement allows for what it creates, or the version of its script is recorded. -/
def Recoverable (executed : List Step) : Prop :=
  ∀ version statement, .statement version statement ∈ executed →
    .record version ∈ executed ∨ Statement.Guarded statement

/-- Statements of one script that is not recorded are recoverable if they may be repeated. -/
theorem recoverable_statements_iff (version : String) (statements : List Statement) :
    Recoverable (statements.map (.statement version)) ↔
      ∀ step ∈ statements.map (Step.statement version), Step.Repeatable step := by
  constructor
  · intro recoverable step member
    obtain ⟨statement, listed, rfl⟩ := List.mem_map.mp member
    rcases recoverable version statement member with recorded | guarded
    · simp at recorded
    · exact guarded
  · intro all other statement member
    exact .inr (all _ member)

/-- A migration that is recorded does not matter for what follows it. -/
theorem recoverable_append_iff (migration : Migration) (executed : List Step)
    (others : ∀ version statement, .statement version statement ∈ executed →
      version ≠ migration.version) :
    Recoverable (scriptSteps migration ++ executed) ↔ Recoverable executed := by
  have record_iff (version : String) :
      Step.record version ∈ scriptSteps migration ↔ version = migration.version := by
    simp [scriptSteps]
  constructor
  · intro recoverable version statement member
    refine (recoverable version statement (List.mem_append_right _ member)).imp_left fun recorded => ?_
    rcases List.mem_append.mp recorded with here | later
    · exact absurd ((record_iff version).mp here) (others version statement member)
    · exact later
  · intro recoverable version statement member
    rcases List.mem_append.mp member with here | later
    · have own : version = migration.version := by
        simp only [scriptSteps, List.mem_append, List.mem_map, Step.statement.injEq,
          List.mem_singleton, reduceCtorEq, or_false] at here
        obtain ⟨_, -, same, -⟩ := here
        exact same.symm
      exact .inl (List.mem_append_left _ ((record_iff version).mpr own))
    · exact (recoverable version statement later).imp_left (List.mem_append_right _)

/-- What is pending after an interruption completes the run exactly if what was executed is
recoverable.

The induction is on the migrations. One that was completed is recorded and left out; the one in
which the run was interrupted is executed again from its start. -/
theorem resumed_iff (migrations : List Migration)
    (distinct : (migrations.map Migration.version).Nodup) (count : Nat)
    (file complete interrupted : DatabaseFile)
    (completes : Store.executeAll executeStep (pendingSteps migrations file.versions) file =
      .ok complete)
    (stopped : Store.executeAll executeStep ((pendingSteps migrations file.versions).take count)
      file = .ok interrupted) :
    Store.executeAll executeStep (pendingSteps migrations interrupted.versions) interrupted =
        .ok complete ↔
      Recoverable ((pendingSteps migrations file.versions).take count) := by
  induction migrations generalizing file count with
  | nil =>
    have none_executed : (pendingSteps [] file.versions).take count = [] := List.take_nil
    rw [none_executed] at stopped ⊢
    cases completes
    cases stopped
    exact iff_of_true rfl (fun _ _ member => absurd member List.not_mem_nil)
  | cons migration rest inductionHypothesis =>
    rw [List.map_cons, List.nodup_cons] at distinct
    by_cases recorded : migration.version ∈ file.versions
    · rw [pendingSteps_recorded migration rest _ recorded] at completes stopped ⊢
      rw [pendingSteps_recorded migration rest _
        (executeAll_versions _ file interrupted _ recorded stopped)]
      exact inductionHypothesis distinct.2 count file completes stopped
    · rw [pendingSteps_unrecorded migration rest _ recorded] at completes stopped ⊢
      obtain ⟨between, here, later⟩ := (Store.executeAll_append executeStep _ _ _ _).mp completes
      have versions := steps_versions migration file between here
      have pending := pendingSteps_other rest file.versions migration.version distinct.1
      rcases Nat.lt_or_ge migration.statements.length count with past | within
      · -- the migration was completed
        obtain ⟨more, rfl⟩ : ∃ more, count = (scriptSteps migration).length + more := by
          refine ⟨count - (scriptSteps migration).length, ?_⟩
          simp only [scriptSteps, List.length_append, List.length_map, List.length_singleton]
          omega
        rw [List.take_length_add_append] at stopped ⊢
        obtain ⟨same, again, stopped_later⟩ :=
          (Store.executeAll_append executeStep _ _ _ _).mp stopped
        have same_file := Except.ok.inj (here.symm.trans again)
        subst same_file
        rw [← pending, ← versions] at later stopped_later
        have now_recorded := executeAll_versions _ between interrupted migration.version
          (by simp [versions]) stopped_later
        rw [pendingSteps_recorded migration rest _ now_recorded,
          inductionHypothesis distinct.2 more between later stopped_later, versions, pending,
          recoverable_append_iff migration _ fun version statement member same => ?_]
        obtain ⟨other, listed, own, -⟩ :=
          pendingSteps_statement rest _ version statement (List.mem_of_mem_take member)
        exact distinct.1 (List.mem_map.mpr ⟨other, listed, own.symm.trans same⟩)
      · -- the migration was interrupted, and is not recorded
        have done : (scriptSteps migration ++ pendingSteps rest file.versions).take count =
            (migration.statements.take count).map (.statement migration.version) := by
          rw [scriptSteps, List.append_assoc, List.take_append_of_le_length
            (by simpa using within), List.map_take]
        have split := List.take_append_drop count
          (scriptSteps migration ++ pendingSteps rest file.versions)
        rw [done] at stopped split ⊢
        have unrecorded := statements_versions _ _ file interrupted stopped
        rw [unrecorded, pendingSteps_unrecorded migration rest _ recorded,
          recoverable_statements_iff, ← split]
        rw [← split, Store.executeAll_append] at completes
        obtain ⟨same, again, remaining⟩ := completes
        have same_file := Except.ok.inj (stopped.symm.trans again)
        subst same_file
        exact redoable.completes_iff _ _ file interrupted complete stopped remaining

/-- Applying migrations again after an interruption leaves the database that the uninterrupted run
leaves exactly if what was executed is recoverable. -/
theorem recovers_iff (migrations : List Migration)
    (distinct : (migrations.map Migration.version).Nodup) (commits : Nat)
    (file complete interrupted : DatabaseFile) (versions : List String)
    (completes : applyMigrations migrations file = .ok (versions, complete))
    (stopped : interruptedAfter migrations commits file = .ok interrupted) :
    (applyMigrations migrations interrupted).map Prod.snd = .ok complete ↔
      Recoverable (executedSteps migrations commits file) := by
  obtain ⟨ensured, created, later⟩ := (Store.bind_ok_iff _ _ _).mp completes
  obtain ⟨last, applied, same⟩ := (Store.bind_ok_iff _ _ _).mp later
  have same_file : last = complete := (Prod.ext_iff.mp (Except.ok.inj same)).2
  subst same_file
  have same_versions : ensured.versions = file.versions :=
    executeStep_versions (.statement "" (.createTable _ _ _)) file ensured created
  rw [same_versions] at applied
  unfold interruptedAfter at stopped
  split at stopped
  · -- nothing was committed
    rename_i nothing
    have same_file := Except.ok.inj stopped
    subst same_file
    subst nothing
    rw [completes]
    exact iff_of_true rfl (fun _ _ member => absurd member List.not_mem_nil)
  · obtain ⟨again, created_again, executed⟩ := (Store.bind_ok_iff _ _ _).mp stopped
    have same_file := Except.ok.inj (created.symm.trans created_again)
    subst same_file
    have there : Left (.statement "" (.createTable "schema_migrations" true migrationTable))
        interrupted :=
      Store.executeAll_keeps executeStep (Left _)
        (fun other store after => redoable.keeps _ other store after) _ ensured interrupted
        (redoable.leaves _ file ensured created) executed
    have kept : ensureMigrationTable interrupted = .ok interrupted :=
      redoable.repeats _ interrupted there rfl
    unfold executedSteps at executed ⊢
    rw [← same_versions] at applied executed ⊢
    rw [← resumed_iff migrations distinct (commits - 1) ensured last interrupted applied executed,
      applyMigrations, kept, Store.map_ok_iff]
    constructor
    · rintro ⟨⟨applied_versions, reached⟩, returned, rfl⟩
      obtain ⟨_, ensured_again, rest⟩ := (Store.bind_ok_iff _ _ _).mp returned
      have same_file := Except.ok.inj ensured_again
      subst same_file
      obtain ⟨final, executed_again, pair⟩ := (Store.bind_ok_iff _ _ _).mp rest
      rw [executed_again]
      exact congrArg _ (Prod.ext_iff.mp (Except.ok.inj pair)).2
    · intro reached
      exact ⟨(_, last), (Store.bind_ok_iff _ _ _).mpr ⟨interrupted, rfl,
        (Store.bind_ok_iff _ _ _).mpr ⟨last, reached, rfl⟩⟩, rfl⟩

/-! ## The shipped migrations -/

/-- An uninterrupted run can be interrupted anywhere: its first steps succeed. -/
theorem interruptedAfter_exists (migrations : List Migration) (commits : Nat)
    (file complete : DatabaseFile) (versions : List String)
    (completes : applyMigrations migrations file = .ok (versions, complete)) :
    ∃ interrupted, interruptedAfter migrations commits file = .ok interrupted := by
  obtain ⟨ensured, created, later⟩ := (Store.bind_ok_iff _ _ _).mp completes
  obtain ⟨last, applied, -⟩ := (Store.bind_ok_iff _ _ _).mp later
  have same_versions : ensured.versions = file.versions :=
    executeStep_versions (.statement "" (.createTable _ _ _)) file ensured created
  unfold interruptedAfter
  split
  · exact ⟨file, rfl⟩
  · rw [same_versions, ← List.take_append_drop (commits - 1) (pendingSteps _ _),
      Store.executeAll_append] at applied
    obtain ⟨interrupted, executed, -⟩ := applied
    exact ⟨interrupted, (Store.bind_ok_iff _ _ _).mpr ⟨ensured, created, executed⟩⟩

/-- The versions of the shipped migrations are distinct. -/
theorem shipped_distinct : (Migrations.shipped.map Migration.version).Nodup := by decide

/-- Each prefix of the shipped migrations completes where a shorter one was applied. -/
theorem shipped_complete : ∀ current ≤ 5, ∀ earlier ≤ current, ∃ applied before versions complete,
    applyMigrations (Migrations.shipped.take earlier) newFile = .ok (applied, before) ∧
      applyMigrations (Migrations.shipped.take current) before = .ok (versions, complete) := by
  have completes : ∀ current ≤ 5, ∀ earlier ≤ current,
      ((applyMigrations (Migrations.shipped.take earlier) newFile).bind fun before =>
        applyMigrations (Migrations.shipped.take current) before.2).isOk = true := by
    decide +kernel
  intro current bounded earlier older
  have completed := completes current bounded earlier older
  cases first : applyMigrations (Migrations.shipped.take earlier) newFile with
  | error error => simp [first, Except.bind, Except.isOk, Except.toBool] at completed
  | ok before =>
    cases second : applyMigrations (Migrations.shipped.take current) before.2 with
    | error error => simp [first, second, Except.bind, Except.isOk, Except.toBool] at completed
    | ok complete => exact ⟨before.1, before.2, complete.1, complete.2, rfl, second⟩

/-- Every shipped statement that creates something allows for its being there. -/
theorem shipped_guarded : ∀ migration ∈ Migrations.shipped, ∀ statement ∈ migration.statements,
    (∃ table column, statement = .addColumn table column) ∨ Statement.Guarded statement := by
  have guarded : ∀ migration ∈ Migrations.shipped, ∀ statement ∈ migration.statements,
      (match statement with
        | .createTable _ ifNotExists _ => ifNotExists
        | .createIndex _ ifNotExists _ => ifNotExists
        | .addColumn _ _ => true) = true := by decide
  intro migration listed statement member
  have allowed := guarded migration listed statement member
  cases statement with
  | createTable name ifNotExists schema => exact .inr allowed
  | createIndex name ifNotExists schema => exact .inr allowed
  | addColumn table column => exact .inl ⟨table, column, rfl⟩

/-- Migrations that were shipped at some time are applied, be it to a new file or to one to which
earlier ones were applied, and the run is interrupted after any number of commits. Applying them
again leaves the database of the uninterrupted run exactly if no column was added by a script whose
version was not recorded. -/
theorem migrations_recover_iff (earlier current : List Migration) (older : earlier <+: current)
    (part : current <+: Migrations.shipped) (commits : Nat) :
    ∃ applied before versions complete interrupted,
      applyMigrations earlier newFile = .ok (applied, before) ∧
      applyMigrations current before = .ok (versions, complete) ∧
      interruptedAfter current commits before = .ok interrupted ∧
      ((applyMigrations current interrupted).map Prod.snd = .ok complete ↔
        ∀ version table column,
          .statement version (.addColumn table column) ∈ executedSteps current commits before →
            .record version ∈ executedSteps current commits before) := by
  have bounded : current.length ≤ 5 := part.length_le
  have current_eq := List.prefix_iff_eq_take.mp part
  have earlier_eq := List.prefix_iff_eq_take.mp (older.trans part)
  obtain ⟨applied, before, versions, complete, first, second⟩ :=
    shipped_complete current.length bounded earlier.length older.length_le
  rw [← earlier_eq] at first
  rw [← current_eq] at second
  obtain ⟨interrupted, stopped⟩ :=
    interruptedAfter_exists current commits before complete versions second
  refine ⟨applied, before, versions, complete, interrupted, first, second, stopped, ?_⟩
  rw [recovers_iff current (shipped_distinct.sublist (part.sublist.map _)) commits before complete
    interrupted versions second stopped]
  constructor
  · intro recoverable version table column member
    exact (recoverable version _ member).resolve_right id
  · intro recorded version statement member
    obtain ⟨migration, listed, -, own⟩ :=
      pendingSteps_statement current _ version statement (List.mem_of_mem_take member)
    rcases shipped_guarded migration (part.subset listed) statement own with
      ⟨table, column, rfl⟩ | guarded
    · exact .inl (recorded version table column member)
    · exact .inr guarded

/-- A run on a new file that is interrupted within the first script is completed. -/
theorem migrations_recover_early :
    ∃ applied before versions complete interrupted,
      applyMigrations [] newFile = .ok (applied, before) ∧
      applyMigrations Migrations.shipped before = .ok (versions, complete) ∧
      interruptedAfter Migrations.shipped 9 before = .ok interrupted ∧
      (applyMigrations Migrations.shipped interrupted).map Prod.snd = .ok complete := by
  obtain ⟨applied, before, versions, complete, interrupted, first, second, stopped, recovers⟩ :=
    migrations_recover_iff [] Migrations.shipped List.nil_prefix List.prefix_rfl 9
  refine ⟨applied, before, versions, complete, interrupted, first, second, stopped,
    recovers.mpr fun version table column member => ?_⟩
  cases first
  have no_columns : ∀ step ∈ executedSteps Migrations.shipped 9 newFile,
      (match step with
        | .statement _ (.addColumn _ _) => false
        | _ => true) = true := by decide +kernel
  exact absurd (no_columns _ member) (by simp)

/-- A run on a new file is interrupted behind the first column that the fourth script adds. Then
the migrations cannot be applied any more. -/
theorem column_added_twice :
    (applyMigrations Migrations.shipped newFile).isOk = true ∧
      (interruptedAfter Migrations.shipped 38 newFile).isOk = true ∧
      ((interruptedAfter Migrations.shipped 38 newFile).bind fun interrupted =>
        (applyMigrations Migrations.shipped interrupted).map fun _ => ()) =
          .error (.duplicateColumn "attempt_number") := by
  decide +kernel

end Bootstrap

end TokenBank
