/-! # Tables and changes to them

What a database is made of, as far as the service needs it: tables with a primary key of one column,
and indexes. A change can be made, or written as a statement for someone else to make it.
-/
namespace Accounts.Schema

inductive ColumnType where
  | text (size : Nat)
  | truth
  | time
  deriving DecidableEq, Repr

def ColumnType.name : ColumnType → String
  | .text size => "VARCHAR(" ++ toString size ++ ")"
  | .truth => "BOOLEAN"
  | .time => "DATETIME"

/-- A column. A required one has a value in every row. -/
structure Column where
  name : String
  type : ColumnType
  required : Bool
  default : Option String
  deriving DecidableEq, Repr

/-- A table. Its key is a column, and the constraint for it may have a name. -/
structure Table where
  name : String
  columns : List Column
  key : String
  keyName : Option String
  deriving DecidableEq, Repr

structure Index where
  name : String
  table : String
  columns : List String
  unique : Bool
  deriving DecidableEq, Repr

/-- The tables and the indexes, in the order in which they were made. -/
structure Layout where
  tables : List Table
  indexes : List Index
  deriving DecidableEq, Repr

def Layout.table? (l : Layout) (name : String) : Option Table :=
  l.tables.find? (·.name == name)

def Layout.indexesOf (l : Layout) (table : String) : List Index :=
  l.indexes.filter (·.table == table)

def Layout.tableNames (l : Layout) : List String :=
  (l.tables.map (·.name)).mergeSort fun a b => decide (a ≤ b)

inductive Change where
  | createTable (t : Table)
  | createIndex (i : Index)
  | dropIndex (name : String)
  | dropTable (name : String)
  deriving DecidableEq, Repr

/-- The layout after a change. A table takes its indexes with it. -/
def Change.apply (l : Layout) : Change → Layout
  | .createTable t => { l with tables := l.tables ++ [t] }
  | .createIndex i => { l with indexes := l.indexes ++ [i] }
  | .dropIndex name => { l with indexes := l.indexes.filter (·.name != name) }
  | .dropTable name =>
    ⟨l.tables.filter (·.name != name), l.indexes.filter (·.table != name)⟩

def Column.line (c : Column) : String :=
  "    " ++ c.name ++ " " ++ c.type.name ++ (c.default.map (" DEFAULT " ++ ·)).getD "" ++
    (if c.required then " NOT NULL" else "") ++ ", "

def Table.keyLine (t : Table) : String :=
  "    " ++ (t.keyName.map fun n => "CONSTRAINT " ++ n ++ " ").getD "" ++
    "PRIMARY KEY (" ++ t.key ++ ")"

def Change.statement : Change → List String
  | .createTable t =>
    ("CREATE TABLE " ++ t.name ++ " (") :: t.columns.map Column.line ++ [t.keyLine, ");", ""]
  | .createIndex i =>
    ["CREATE " ++ (if i.unique then "UNIQUE " else "") ++ "INDEX " ++ i.name ++ " ON " ++ i.table ++
      " (" ++ String.intercalate ", " i.columns ++ ");", ""]
  | .dropIndex name => ["DROP INDEX " ++ name ++ ";", ""]
  | .dropTable name => ["DROP TABLE " ++ name ++ ";", ""]

end Accounts.Schema
