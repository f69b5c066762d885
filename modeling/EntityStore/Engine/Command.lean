import EntityStore.Engine.Connection

/-! Statements given one at a time, outside the mapping of entities. They change single rows or the tables
themselves, and their conditions name columns without quotes. -/

namespace EntityStore.Engine

abbrev Conditions := List (String × Value)

inductive Command where
  | list (table : String)
  | put (table : String) (columns : List String)
  | set (table column : String) (conditions : List String)
  | erase (table : String) (conditions : List String)
  | dropTable (table : String)
  | createView (name : String)
  | dropColumn (table column : String)
  | renameColumn (table column target : String)
  | renameTable (table target : String)
  deriving DecidableEq, Repr

namespace Command
open Text.Quoted (quote)

/-- The start of the names of tables that hold collections. -/
def collectionStart : String := "boy_scout_"

/-- Rows are listed by id, and those of a collection by ordinality after it. -/
def listOrder (table : String) : List String :=
  if table.startsWith collectionStart then [Collection.idColumn, Collection.ordinalityColumn]
  else [Collection.idColumn]

/-- What stands before the first name that the statement looks up in a table. -/
def opening : Command → String
  | .list table => "SELECT * FROM " ++ quote table ++ " ORDER BY "
  | .put table _ => "INSERT INTO " ++ quote table ++ " ("
  | .set table column _ => "UPDATE " ++ quote table ++ " SET " ++ quote column ++ " = ? WHERE "
  | .erase table _ => "DELETE FROM " ++ quote table ++ " WHERE "
  | .dropTable _ => "DROP TABLE "
  | .createView _ => "CREATE VIEW "
  | .dropColumn table _ => "ALTER TABLE " ++ quote table ++ " DROP COLUMN "
  | .renameColumn table _ _ => "ALTER TABLE " ++ quote table ++ " RENAME COLUMN "
  | .renameTable table _ => "ALTER TABLE " ++ quote table ++ " RENAME TO "

/-- What stands between two names of a condition or an order. -/
def separator : Command → String
  | .set .. | .erase .. => " = ? AND "
  | _ => ", "

def rest : Command → String
  | .list table => ", ".intercalate (listOrder table)
  | .put _ columns => ", ".intercalate (columns.map quote) ++ ") VALUES " ++ Statement.tuple columns.length
  | .set _ _ conditions | .erase _ conditions => " = ? AND ".intercalate conditions ++ " = ?"
  | .dropTable table => quote table
  | .createView name => quote name ++ " AS SELECT NULL AS id"
  | .dropColumn _ column => quote column
  | .renameColumn _ column target => quote column ++ " TO " ++ quote target
  | .renameTable _ target => quote target

def text (command : Command) : String := command.opening ++ command.rest

/-- A cause that shows where the names begin, or after some text from there. -/
def located (command : Command) (cause : EngineError) (after : String) : EngineError :=
  .located cause command.text (command.opening ++ after).utf8ByteSize

/-- The places of names in conditions and orders, or the first that is none. -/
def places (command : Command) (relation : Relation) (before : String) :
    List String → Except EngineError (List Place)
  | [] => .ok []
  | name :: names =>
      match relation.place? name with
      | some place => do return place :: (← places command relation (before ++ name ++ command.separator) names)
      | none => .error (command.located (.noSuchColumn name) before)

end Command

namespace Connection

def list (connection : Connection) (name : String) : Except EngineError (List Row) := do
  let command : Command := .list name
  requireText command.text 0
  connection.requireTables
  let relation ← connection.database.source name none
  let order ← command.places relation "" (Command.listOrder name)
  connection.requireReadable
  relation.requireIntact
  let outputs := (List.range relation.columns.length).map fun index => Operand.stored (relation.placeOf index)
  return relation.read ⟨.literal "", .text "", outputs, order.map .stored⟩

def put (connection : Connection) (name : String) (row : List (String × Value)) :
    Except EngineError Nat × Connection :=
  let columns := row.map (·.1)
  let command : Command := .put name columns
  match requireText command.text columns.length, columns with
  | .error error, _ => (.error error, connection)
  | .ok (), [] => (.error (command.located (.syntaxErrorNear ")") ""), connection)
  | .ok (), _ :: _ => counted (connection.runText command.text (.insert name columns) (row.map (·.2)))

def meets (relation : Relation) (places : List Place) (values : List Value) : Entry → Bool :=
  let tests := (places.zip values).map fun (place, value) =>
    (Operand.stored place).equals relation value.parameter
  fun entry => tests.all fun test => test entry

/-- Changes rows that meet conditions. The statement names columns, and then its conditions are looked at. -/
def changeWhere (connection : Connection) (command : Command) (name : String) (conditions : Conditions)
    (columns : List String)
    (step : Table → References → (Entry → Bool) → Progress → Except EngineError Progress) :
    Except EngineError Nat × Connection :=
  let prepared : Except EngineError (Table × (Nat → Bool) × List Place) := do
    requireText command.text 0
    connection.requireTables
    let table ← connection.database.writable name
    Database.requirePlaces table .noSuchColumn columns
    let places ← command.places table.toRelation "" (conditions.map (·.1))
    let touched : Nat → Bool := match columns with
      | [] => fun _ => true
      | columns => Database.touched table columns
    if connection.foreignKeys then connection.database.requireReferences table touched
    connection.requireReadable
    table.requireIntact
    return (table, touched, places)
  match prepared with
  | .error error => (.error error, connection)
  | .ok (table, touched, places) =>
      let chosen := meets table.toRelation places (conditions.map (·.2))
      connection.change table
        (step table (connection.references table touched) chosen ⟨table.entries, connection.pending, 0⟩)

def set (connection : Connection) (name : String) (conditions : Conditions) (column : String) (value : Value) :
    Except EngineError Nat × Connection :=
  connection.changeWhere (.set name column (conditions.map (·.1))) name conditions [column]
    fun table references chosen progress =>
      let assignments := (table.place? column).toList.map fun place => ⟨place, some value.parameter⟩
      progress.update table references assignments chosen

def erase (connection : Connection) (name : String) (conditions : Conditions) :
    Except EngineError Nat × Connection :=
  connection.changeWhere (.erase name (conditions.map (·.1))) name conditions []
    fun _ references chosen progress => .ok (progress.delete references chosen)

end Connection
end EntityStore.Engine
