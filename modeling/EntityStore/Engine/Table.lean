import EntityStore.Engine.Relation
import EntityStore.Text.Quoted

/-! Tables and databases. A table is a relation with a name whose columns may refer to a key of a parent table. A
view is known by its name only and shows one row of one column. -/

namespace EntityStore.Engine

/-- A column that refers to rows of a parent table, by a column named there or by the primary key. -/
structure Reference where
  column : Nat
  parent : String
  key : Option String
  deriving DecidableEq, Repr

structure Table extends Relation where
  name : String
  references : List Reference
  definition : String
  /-- The page where the rows begin. Those of each key begin on the pages after it. -/
  page : Nat
  deriving DecidableEq, Repr

inductive Item where
  | table (table : Table)
  | view (name : String)
  deriving DecidableEq, Repr

/-- Tables and views in the order they were created, no two of them under one name. -/
structure Database where
  version : Int32
  items : List Item
  deriving DecidableEq, Repr

namespace Table

/-- The column that alone is the key that a reference goes by. -/
def referred? (table : Table) (reference : Reference) : Option Nat :=
  let wanted (index : Nat) (primary : Bool) : Bool :=
    match reference.key, table.columns[index]? with
    | none, _ => primary
    | some name, some column => sameName column.name name
    | some _, none => false
  let numbered := match table.numbering with
    | .column index => if wanted index true then some index else none
    | .absent | .named => none
  numbered <|> table.keys.findSome? fun key =>
    match key.columns with
    | [index] => if wanted index key.primary then some index else none
    | _ => none

/-- The place of a column in the primary key, counting from one, or zero. -/
def primaryPlace (table : Table) (index : Nat) : Nat :=
  if table.numbering = .column index then 1
  else
    match (table.keys.find? (·.primary)).bind fun key => key.columns.findIdx? (· == index) with
    | some place => place + 1
    | none => 0

def indexName (table : Table) (place : Nat) : String :=
  "sqlite_autoindex_" ++ table.name ++ "_" ++ Text.Decimal.text (place + 1)

def indexNames (table : Table) : List String := (List.range table.keys.length).map table.indexName

/-- The references of a table to the table of a name. -/
def referencesTo (table : Table) (parent : String) : List Reference :=
  table.references.filter fun reference => sameName reference.parent parent

end Table

namespace Item

def name : Item → String
  | .table found => found.name
  | .view name => name

def table? : Item → Option Table
  | .table found => some found
  | .view _ => none

def mapTable (change : Table → Table) : Item → Item
  | .table found => .table (change found)
  | .view name => .view name

end Item

def viewDefinition (name : String) : String := "CREATE VIEW " ++ Text.Quoted.quote name ++ " AS SELECT NULL AS id"

/-- What a view shows: one row with NULL in a column called id. -/
def viewRelation : Relation :=
  ⟨[{ name := "id", type := "", required := false }], .absent, [], [⟨0, [.null]⟩], true⟩

namespace Database

def empty : Database := ⟨0, []⟩

def item? (database : Database) (name : String) : Option Item := database.items.find? (sameName ·.name name)

def tables (database : Database) : List Table := database.items.filterMap (·.table?)

def table? (database : Database) (name : String) : Option Table := (database.item? name).bind (·.table?)

def setEntries (database : Database) (name : String) (entries : List Entry) : Database :=
  { database with
    items := database.items.map fun item =>
      if sameName item.name name then item.mapTable ({ · with entries := entries }) else item }

/-- The first page that nothing begins on yet. The first of all pages holds the names of what there is. -/
def nextPage (database : Database) : Nat :=
  (database.tables.map fun table => table.page + table.keys.length + 1).foldl max 2

def add (database : Database) (table : Table) : Database :=
  { database with items := database.items ++ [.table { table with page := database.nextPage }] }

/-- Every reference to the table of a name, with the table that it belongs to, the newest table first. -/
def referring (database : Database) (name : String) : List (Table × Reference) :=
  database.tables.reverse.flatMap fun table =>
    (table.referencesTo name).reverse.map fun reference => (table, reference)

end Database
end EntityStore.Engine
