import TokenBank.Store.Redoing
import TokenBank.Store.Table

/-!
# The migration bootstrap

A database file is described by its schema and by the versions recorded in its migration table.
The statements of a migration script are executed and committed one by one, and the version of the
script is recorded behind the last of them. Unrecorded migrations are applied in the order of their
files. An interrupted run has executed some of its steps, and nothing of the others.
-/

namespace TokenBank

/-- A column of a table, with its type and constraints as text. -/
structure Column where
  name : String
  definition : String
deriving DecidableEq

/-- A column that refers to the rows of a table under its column of the same name. -/
structure ForeignKey where
  column : String
  references : String
  onDeleteCascade : Bool := false
deriving DecidableEq

/-- The columns and foreign keys of a table. -/
structure TableSchema where
  columns : List Column
  foreignKeys : List ForeignKey := []
deriving DecidableEq

/-- What an index covers. -/
structure IndexSchema where
  table : String
  columns : List String
  unique : Bool := false
deriving DecidableEq

/-- A statement of a migration script. -/
inductive Statement : Type
  | createTable (name : String) (ifNotExists : Bool) (schema : TableSchema)
  | createIndex (name : String) (ifNotExists : Bool) (schema : IndexSchema)
  | addColumn (table : String) (column : Column)

/-- A migration file: its stem and its statements. -/
structure Migration where
  version : String
  statements : List Statement

/-- Why a statement fails. -/
inductive SqlError : Type
  | tableExists (name : String)
  | indexExists (name : String)
  | noSuchTable (name : String)
  | noSuchColumn (name : String)
  | duplicateColumn (name : String)
  | integrityError (version : String)
deriving DecidableEq

/-- A database file: tables and indexes by name, and the recorded versions. -/
structure DatabaseFile where
  tables : Store.Table String TableSchema
  indexes : Store.Table String IndexSchema
  versions : List String

namespace Bootstrap

/-- A new database file. -/
def newFile : DatabaseFile where
  tables := .empty
  indexes := .empty
  versions := []

/-- Create a table, unless there is one and this is allowed for. -/
def createTable (name : String) (ifNotExists : Bool) (schema : TableSchema) (file : DatabaseFile) :
    Except SqlError DatabaseFile :=
  match file.tables.insert name schema with
  | none => if ifNotExists then .ok file else .error (.tableExists name)
  | some tables =>
    if (file.indexes.find? name).isSome then .error (.indexExists name)
    else .ok { file with tables := tables }

/-- Create an index on columns of a table, unless there is one and this is allowed for. -/
def createIndex (name : String) (ifNotExists : Bool) (schema : IndexSchema) (file : DatabaseFile) :
    Except SqlError DatabaseFile :=
  match file.tables.find? schema.table with
  | none => .error (.noSuchTable schema.table)
  | some table =>
    if (file.tables.find? name).isSome then .error (.tableExists name)
    else
      match file.indexes.insert name schema with
      | none => if ifNotExists then .ok file else .error (.indexExists name)
      | some indexes =>
        match schema.columns.find? (fun column => column ∉ table.columns.map Column.name) with
        | some column => .error (.noSuchColumn column)
        | none => .ok { file with indexes := indexes }

/-- Add a column to a table. The statement has no form that allows for a column of its name. -/
def addColumn (name : String) (column : Column) (file : DatabaseFile) :
    Except SqlError DatabaseFile :=
  match file.tables.find? name with
  | none => .error (.noSuchTable name)
  | some table =>
    if column.name ∈ table.columns.map Column.name then .error (.duplicateColumn column.name)
    else .ok { file with
      tables := file.tables.modify name (fun table =>
        { table with columns := table.columns ++ [column] }) }

/-- Execute a statement. -/
def executeStatement : Statement → DatabaseFile → Except SqlError DatabaseFile
  | .createTable name ifNotExists schema => createTable name ifNotExists schema
  | .createIndex name ifNotExists schema => createIndex name ifNotExists schema
  | .addColumn table column => addColumn table column

/-- Record the version of a migration. -/
def recordVersion (version : String) (file : DatabaseFile) : Except SqlError DatabaseFile :=
  if version ∈ file.versions then .error (.integrityError version)
  else .ok { file with versions := file.versions ++ [version] }

/-- What is committed on its own: a statement of a script, or the record of its version. -/
inductive Step : Type
  | statement (version : String) (statement : Statement)
  | record (version : String)

/-- Execute a step. -/
def executeStep : Step → DatabaseFile → Except SqlError DatabaseFile
  | .statement _ statement => executeStatement statement
  | .record version => recordVersion version

/-- The migration table, which is no migration's. -/
def migrationTable : TableSchema where
  columns := [⟨"version", "TEXT PRIMARY KEY"⟩,
    ⟨"applied_at", "TEXT NOT NULL DEFAULT (strftime('%Y-%m-%dT%H:%M:%fZ','now'))"⟩]

/-- Create the migration table if there is none. -/
def ensureMigrationTable : DatabaseFile → Except SqlError DatabaseFile :=
  createTable "schema_migrations" true migrationTable

/-- The migrations that are not recorded. -/
def unapplied (migrations : List Migration) (existing : List String) : List Migration :=
  migrations.filter (fun migration => migration.version ∉ existing)

/-- The steps of a migration. -/
def scriptSteps (migration : Migration) : List Step :=
  migration.statements.map (.statement migration.version) ++ [.record migration.version]

/-- The steps of the migrations that are not recorded. -/
def pendingSteps (migrations : List Migration) (existing : List String) : List Step :=
  (unapplied migrations existing).flatMap scriptSteps

/-- Apply the unrecorded migrations, in the order of their files, and return their versions. -/
def applyMigrations (migrations : List Migration) (file : DatabaseFile) :
    Except SqlError (List String × DatabaseFile) := do
  let file ← ensureMigrationTable file
  let applied ← Store.executeAll executeStep (pendingSteps migrations file.versions) file
  return ((unapplied migrations file.versions).map Migration.version, applied)

/-- The steps a run has executed that is interrupted after a number of commits, of which the first
is that of the migration table. -/
def executedSteps (migrations : List Migration) (commits : Nat) (file : DatabaseFile) : List Step :=
  (pendingSteps migrations file.versions).take (commits - 1)

/-- The database a run leaves that is interrupted after a number of commits. -/
def interruptedAfter (migrations : List Migration) (commits : Nat) (file : DatabaseFile) :
    Except SqlError DatabaseFile :=
  if commits = 0 then .ok file
  else do
    let ensured ← ensureMigrationTable file
    Store.executeAll executeStep (executedSteps migrations commits file) ensured

end Bootstrap

end TokenBank
