import Accounts.Schema.Table

/-! # The history of the schema

The schema grows by revisions, one after the other. A database remembers in a table of its own which
revision it has; before the first one it is at the base. Levels count the revisions from the base
up.
-/
namespace Accounts.Schema

structure Revision where
  id : String
  up : List Change
  down : List Change
  deriving DecidableEq, Repr

def requiredText (name : String) (size : Nat) : Column :=
  ⟨name, .text size, true, none⟩

def userTable : Table where
  name := "user"
  columns :=
    [requiredText "id" 36, requiredText "email" 255, requiredText "password_hash" 255,
      requiredText "first_name" 100, requiredText "last_name" 100,
      ⟨"is_active", .truth, true, some "1"⟩, ⟨"created_at", .time, true, none⟩,
      ⟨"updated_at", .time, true, none⟩, ⟨"last_login_at", .time, false, none⟩]
  key := "id"
  keyName := none

def emailIndex : Index :=
  ⟨"ix_user_email", "user", ["email"], true⟩

def usersRevision : Revision where
  id := "001"
  up := [.createTable userTable, .createIndex emailIndex]
  down := [.dropIndex emailIndex.name, .dropTable userTable.name]

def history : List Revision := [usersRevision]

def top : Nat := history.length

/-- The id of the revision of a level; the base has none. -/
def idOf? (level : Nat) : Option String :=
  if level = 0 then none else (history[level - 1]?).map (·.id)

def versionTable : Table where
  name := "alembic_version"
  columns := [requiredText "version_num" 32]
  key := "version_num"
  keyName := some "alembic_version_pkc"

structure Database where
  layout : Layout
  level : Nat
  deriving DecidableEq, Repr

def Database.empty : Database :=
  ⟨⟨[versionTable], []⟩, 0⟩

def Database.version (d : Database) : List String :=
  (idOf? d.level).toList

/-- One level up or down. The level is the one above. -/
inductive Step where
  | up (level : Nat) (r : Revision)
  | down (level : Nat) (r : Revision)
  deriving DecidableEq, Repr

def levelsBetween (low high : Nat) : List Nat :=
  (List.range (high - low)).map (low + 1 + ·)

def stepsUp (source target : Nat) : List Step :=
  (levelsBetween source target).filterMap fun l => (history[l - 1]?).map (.up l)

def stepsDown (source target : Nat) : List Step :=
  (levelsBetween target source).reverse.filterMap fun l => (history[l - 1]?).map (.down l)

def Step.apply (d : Database) : Step → Database
  | .up level r => ⟨r.up.foldl Change.apply d.layout, level⟩
  | .down level r => ⟨r.down.foldl Change.apply d.layout, level - 1⟩

/-- The statement that moves the remembered revision, with an empty line after it. -/
def versionStatement (source target : Option String) : List String :=
  let table := versionTable.name
  let column := versionTable.key
  let row := fun id => table ++ "." ++ column ++ " = '" ++ id ++ "';"
  match source, target with
  | none, some new =>
    ["INSERT INTO " ++ table ++ " (" ++ column ++ ") VALUES ('" ++ new ++ "') RETURNING " ++
      column ++ ";", ""]
  | some old, none => ["DELETE FROM " ++ table ++ " WHERE " ++ row old, ""]
  | some old, some new =>
    ["UPDATE " ++ table ++ " SET " ++ column ++ "='" ++ new ++ "' WHERE " ++ row old, ""]
  | none, none => []

/-- A step as lines of a script. A database that leaves the base gets its version table first. -/
def Step.script : Step → List String
  | .up level r =>
    (if level = 1 then (Change.createTable versionTable).statement else []) ++
      ["-- Running upgrade " ++ (idOf? (level - 1)).getD "" ++ " -> " ++ r.id, ""] ++
      r.up.flatMap Change.statement ++ versionStatement (idOf? (level - 1)) (some r.id)
  | .down level r =>
    ["-- Running downgrade " ++ r.id ++ " -> " ++ (idOf? (level - 1)).getD "", ""] ++
      r.down.flatMap Change.statement ++ versionStatement (some r.id) (idOf? (level - 1))

end Accounts.Schema
