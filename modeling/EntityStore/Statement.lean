import EntityStore.Schema
import EntityStore.Text.Quoted

/-! Statements and their text. Every name in a statement is quoted and every value is a parameter, so the
text of a statement depends on the names and on how many rows it writes, and on nothing else. -/

namespace EntityStore

inductive Statement where
  | insert (table : String) (columns : List String)
  /-- Writes one row and `more` after it. -/
  | insertRows (table : String) (columns : List String) (more : Nat)
  | select (table : String) (columns : List String) (key : String) (order : Option String)
  /-- Selects NULL for every row of a key, which tells whether there is one. -/
  | probe (table key : String)
  /-- Each column takes two parameters: whether to change it, and its new value. -/
  | update (table : String) (columns : List String) (key : String)
  | delete (table key : String)
  deriving DecidableEq, Repr

namespace Statement
open Text.Quoted (quote)

def commaList (items : List String) : String := ", ".intercalate items

def tuple (width : Nat) : String := "(" ++ commaList (List.replicate width "?") ++ ")"

def opening (table : String) (columns : List String) : String :=
  "INSERT INTO " ++ quote table ++ " (" ++ commaList (columns.map quote) ++ ") VALUES "

def withTuples (opening tuple : String) (more : Nat) : String :=
  opening ++ commaList (List.replicate (more + 1) tuple)

/-- Tuples in a given number, of which there must be one. -/
def tuples? (opening tuple : String) : Nat → Option String
  | 0 => none
  | more + 1 => some (withTuples opening tuple more)

def tuplesMissing : String := "with_tuples requires at least one tuple, but 0 were specified"

def keyed (table key : String) : String := quote table ++ " WHERE " ++ quote key ++ " = ?"

def assignment (column : String) : String :=
  quote column ++ " = CASE WHEN ? THEN ? ELSE " ++ quote column ++ " END"

def text : Statement → String
  | .insert table columns => opening table columns ++ tuple columns.length ++ ";"
  | .insertRows table columns more => withTuples (opening table columns) (tuple columns.length) more
  | .select table columns key order =>
      let sorted := match order with
        | some column => " ORDER BY " ++ quote column ++ " ASC"
        | none => ""
      "SELECT " ++ commaList (columns.map quote) ++ " FROM " ++ keyed table key ++ sorted ++ ";"
  | .probe table key => "SELECT NULL FROM " ++ keyed table key ++ ";"
  | .update table columns key =>
      "UPDATE " ++ quote table ++ " SET " ++ commaList (columns.map assignment) ++ " WHERE " ++ quote key ++ " = ?;"
  | .delete table key => "DELETE FROM " ++ keyed table key ++ ";"

def arity : Statement → Nat
  | .insert _ columns => columns.length
  | .insertRows _ columns more => (more + 1) * columns.length
  | .update _ columns _ => 2 * columns.length + 1
  | .select .. | .probe .. | .delete .. => 1

def table : Statement → String
  | .insert table _ | .insertRows table _ _ | .select table _ _ _ | .probe table _ | .update table _ _
  | .delete table _ => table

def assigned : Statement → List String
  | .insert _ columns | .insertRows _ columns _ | .update _ columns _ => columns
  | .select .. | .probe .. | .delete .. => []

end Statement

namespace Schema

def insert (schema : Schema) : Statement := .insert schema.table schema.columnNames

def select (schema : Schema) : Statement := .select schema.table schema.columnNames schema.idColumn none

def probe (schema : Schema) : Statement := .probe schema.table schema.idColumn

/-- There is nothing to update where the id is the only column. -/
def update? (schema : Schema) : Option Statement :=
  if schema.columns.isEmpty then none
  else some (.update schema.table (schema.columns.map (·.name)) schema.idColumn)

def delete (schema : Schema) : Statement := .delete schema.table schema.idColumn

end Schema

namespace Collection

def insert (collection : Collection) (more : Nat) : Statement := .insertRows collection.table columnNames more

def select (collection : Collection) : Statement :=
  .select collection.table [valueColumn] idColumn (some ordinalityColumn)

def delete (collection : Collection) : Statement := .delete collection.table idColumn

end Collection
end EntityStore
