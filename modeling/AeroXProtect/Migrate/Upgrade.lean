import AeroXProtect.Lib.Table
import AeroXProtect.Lib.Script
import Mathlib.Data.String.Basic

/-!
# The migration runner

`upgrade` brings the schema up to date: it looks at the tables and at the rows of
`schema_migrations` and decides between three modes. Without a table `roles` the database is fresh:
all tables are created from the models and every migration file is recorded without running it. A
table of the models is created by one statement and each of its indexes by another one behind it;
tables that are there are passed over, with their indexes. With `roles` and without rows the schema
is taken as current and the files are recorded. Otherwise the files that are not recorded are run
and recorded one after the other.

After the decision the statements of the run are fixed (`plan`), so an interrupted run is a first
part of them (`attempt`). The database server is a parameter (`Sql`); what the model adds to the
database is what was built by `create_all` (`built`), which files have been run through (`done`) and
which statements of files were executed (`ran`).
-/

open Lib

namespace AeroXProtect

/-- What one statement of `create_all` creates. -/
inductive SchemaItem
  | table (name : String)
  | index (table name : String)
  deriving DecidableEq, Repr

/-- A table of the models with its indexes; constraints are part of the table. -/
structure ModelTable where
  name : String
  indexes : List String
  deriving DecidableEq, Repr

abbrev ModelTables := Table ModelTable.name

/-- The statements that create a table: the table, and then its indexes. -/
def ModelTable.items (t : ModelTable) : List SchemaItem :=
  .table t.name :: t.indexes.map (.index t.name)

/-- What the runner relies on of the database server: a statement of a file is executed on the
schema and succeeds or fails, a table that is created is there, and no other is by what `create_all`
creates. -/
structure Sql where
  Schema : Type
  Stmt : Type
  exec : Stmt → Schema → Schema × Bool
  hasTable : Schema → String → Bool
  create : SchemaItem → Schema → Schema
  hasTable_create : ∀ i s t, hasTable (create i s) t = (i == .table t || hasTable s t)

/-- A file of the directory, and what is read of it: its checksum and its statements, without the
`USE` and `CREATE DATABASE` lines (`strip_db_statements`). -/
structure DirEntry (Stmt : Type) where
  name : String
  checksum : String
  stmts : List Stmt

/-- A discovered migration. -/
structure Migration (Stmt : Type) where
  version : String
  filename : String
  checksum : String
  stmts : List Stmt

section
variable {Stmt : Type}

end

/-- A row of `schema_migrations`; its times are for display. -/
structure MigrationRow where
  version : String
  filename : String
  checksum : String
  note : Option String
  deriving DecidableEq, Repr

/-- The database. `rows` has the primary key of `schema_migrations`; `built`, `done` and `ran` are
not in the database. -/
structure SchemaDb (sql : Sql) where
  schema : sql.Schema
  hasMigrations : Bool
  rows : Table MigrationRow.version
  /-- The tables and indexes that `create_all` has built. -/
  built : List SchemaItem
  /-- The versions whose file has been run through. -/
  done : List String
  /-- The executed statements, newest first: the version of the file, and whether the schema had
  been built in its final form by `create_all`. -/
  ran : List (String × Bool)

/-- How a run of `upgrade` proceeds. -/
inductive UpgradeMode
  | fresh | baseline | incremental
  deriving DecidableEq, Repr

/-- A statement of a run: `create_all` creates a table or an index, a statement of a file is
executed, the file has been run through, the version is recorded. -/
inductive UpgradeOp (Stmt : Type)
  | create (item : SchemaItem)
  | run (version : String) (stmt : Stmt)
  | ranFile (version : String)
  | record (file : Migration Stmt) (note : Option String)

/-- `schema_migrations` is created if it is missing (`_TABLE_DDL`). -/
def SchemaDb.ensureTable {sql : Sql} (db : SchemaDb sql) : SchemaDb sql :=
  { db with hasMigrations := true }

namespace Upgrade

section
variable {sql : Sql} (models : ModelTables) (files : List (Migration sql.Stmt))

/-- Every table of the models was built by `create_all`, with its indexes. -/
def final (db : SchemaDb sql) : Bool :=
  models.rows.all fun t => t.items.all fun i => db.built.contains i

/-- One statement; `false` is an error of the server. Source: `_record`, `_run_file`
(`server/service/db_migrate.py:99`, `:112`), and `create_all`. -/
def exec : UpgradeOp sql.Stmt → SchemaDb sql → SchemaDb sql × Bool
  | .create i, db =>
    ({ db with schema := sql.create i db.schema, built := i :: db.built }, true)
  | .run v stmt, db =>
    let (schema, ok) := sql.exec stmt db.schema
    ({ db with schema, ran := (v, final models db) :: db.ran }, ok)
  | .ranFile v, db => ({ db with done := v :: db.done }, true)
  | .record f note, db =>
    if (db.rows.get? f.version).isSome then (db, false)
    else ({ db with rows := db.rows.insert ⟨f.version, f.filename, f.checksum, note⟩ }, true)

/-- The mode of the run. -/
def mode (db : SchemaDb sql) : UpgradeMode :=
  if !sql.hasTable db.schema "roles" then .fresh
  else if db.rows.rows.isEmpty then .baseline
  else .incremental

/-- The tables `create_all` creates: those that are missing. -/
def missing (db : SchemaDb sql) : List ModelTable :=
  models.rows.filter fun t => !sql.hasTable db.schema t.name

/-- The files that are not recorded. -/
def pending (db : SchemaDb sql) : List (Migration sql.Stmt) :=
  files.filter fun f => (db.rows.get? f.version).isNone

/-- The statements of a file that is run. -/
def fileOps (f : Migration sql.Stmt) : List (UpgradeOp sql.Stmt) :=
  f.stmts.map (.run f.version) ++ [.ranFile f.version, .record f none]

/-- The statements of a run, from the decision on. -/
def plan (db : SchemaDb sql) : List (UpgradeOp sql.Stmt) :=
  match mode db with
  | .fresh =>
    ((missing models db).flatMap ModelTable.items).map .create ++
      files.map fun f => .record f (some "baseline:create_all")
  | .baseline => files.map fun f => .record f (some "baseline:existing")
  | .incremental => (pending files db).flatMap fileOps

/-- A run that crashes after `n` statements (or ends before). -/
def attempt (db : SchemaDb sql) : Nat → SchemaDb sql
  | 0 => db
  | n + 1 => (Script.run (exec models) ((plan models files db.ensureTable).take n) db.ensureTable).1

/-- The schema has what the file of the version does: the file was run through, or the schema was
built in its final form. -/
def HasEffect (db : SchemaDb sql) (version : String) : Prop :=
  version ∈ db.done ∨ final models db = true

instance (db : SchemaDb sql) (version : String) : Decidable (HasEffect models db version) :=
  inferInstanceAs (Decidable (_ ∨ _))

end

end Upgrade

end AeroXProtect
