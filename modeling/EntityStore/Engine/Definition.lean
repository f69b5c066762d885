import EntityStore.Engine.Command

/-! Changes of the tables themselves. Like statements they take effect as a whole or not at all, and while parents
are enforced they may not leave a row without one. -/

namespace EntityStore.Engine

namespace Table

/-- A place among the columns that are left when one of them is dropped. -/
def shifted (dropped index : Nat) : Nat := if dropped < index then index - 1 else index

def dropColumn (table : Table) (index : Nat) : Table :=
  { table with
    columns := table.columns.eraseIdx index
    numbering := match table.numbering with
      | .column place => .column (shifted index place)
      | other => other
    keys := table.keys.map fun key => { key with columns := key.columns.map (shifted index) }
    references := (table.references.filter (·.column != index)).map fun reference =>
      { reference with column := shifted index reference.column }
    entries := table.entries.map fun entry => { entry with values := entry.values.eraseIdx index } }

def renameColumn (table : Table) (index : Nat) (name : String) : Table :=
  { table with columns := table.columns.modify index ({ · with name := name }) }

/-- Names the column that references to a table go by anew. -/
def renameReferred (parent column target : String) (table : Table) : Table :=
  { table with
    references := table.references.map fun reference =>
      if sameName reference.parent parent ∧ reference.key.any (sameName column) then
        { reference with key := some target }
      else reference }

def isPrimary (table : Table) (index : Nat) : Bool := 0 < table.primaryPlace index

def isUnique (table : Table) (index : Nat) : Bool := table.keys.any (·.columns == [index])

end Table

namespace Database

/-- Whether a table may not be renamed to a name because it is in use. What is temporary has names of its own. -/
def isTaken (database : Database) (temporary : Bool) (name : String) : Bool :=
  schemaNames.any (sameName name) ||
    if temporary then temporaryNames.any (sameName name)
    else (database.item? name).isSome || database.tables.any fun table => table.indexNames.any (sameName name)

/-- Names with this start belong to the engine. -/
def isReserved (name : String) : Bool := name.toLower.startsWith "sqlite_"

def createView (database : Database) (name : String) : Except EngineError Database :=
  let command : Command := .createView name
  let written := Text.Quoted.quote name
  if isReserved name then .error (.nameReserved name)
  else
    match database.item? name with
    | some (.table _) => .error (command.located (.tableExists written) "")
    | some (.view _) => .error (command.located (.viewExists written) "")
    | none => .ok { database with items := database.items ++ [.view name] }

def requireColumn (command : Command) (table : Table) (column : String) : Except EngineError Nat :=
  match table.columnIndex? column with
  | some index => .ok index
  | none => .error (command.located (.noSuchColumn ("\"" ++ Text.Quoted.quote column ++ "\"")) "")

def dropColumn (database : Database) (name column : String) : Except EngineError Database := do
  let table ← database.tableOr name .droppingViewColumn .alteringTable
  let index ← requireColumn (.dropColumn name column) table column
  if table.isPrimary index then .error (.cannotDropKey column)
  else if table.isUnique index then .error (.cannotDropUnique column)
  else if table.columns.length = 1 then .error (.cannotDropOnly column)
  else
    return { database with
      items := database.items.map fun item =>
        if sameName item.name name then item.mapTable (·.dropColumn index) else item }

/-- Two columns of one name are noticed at the later of them. -/
def renameColumn (database : Database) (name column target : String) : Except EngineError Database := do
  let table ← database.tableOr name .renamingViewColumn .alteringTable
  let index ← requireColumn (.renameColumn name column target) table column
  let renamed := table.renameColumn index target
  match (table.columnIndex? target).filter (· != index) with
  | some other =>
      .error (.duplicateColumn table.name (((renamed.columns[max index other]?).map (·.name)).getD target))
  | none =>
      return { database with
        items := database.items.map fun item =>
          (if sameName item.name name then item.mapTable (·.renameColumn index target) else item).mapTable
            (·.renameReferred name column target) }

/-- The tables that refer to a renamed table follow it. -/
def renameTable (database : Database) (name target : String) : Except EngineError Database := do
  let follow (reference : Reference) : Reference :=
    if sameName reference.parent name then { reference with parent := target } else reference
  let rename (table : Table) : Table :=
    { table with
      name := if sameName table.name name then target else table.name
      references := table.references.map follow }
  let found := database.tableOr name .alteringView .alteringTable
  match found with
  | .error (.noSuchTable missing) => .error (.noSuchTable missing)
  | _ =>
      if database.isTaken (temporaryNames.any (sameName name)) target then .error (.nameTaken target)
      else
        match found with
        | .error (.alteringTable table) => .error (.alteringTable table)
        | _ =>
            if isReserved target then .error (.nameReserved target)
            else
              let _ ← found
              return { database with items := database.items.map (·.mapTable rename) }

end Database

namespace Connection

/-- Changes the tables unless the text of the command or the change is refused. -/
def redefine (connection : Connection) (command : Command) (outcome : Except EngineError Database) :
    Except EngineError Unit × Connection :=
  let checked : Except EngineError Database := do
    requireText command.text 0
    connection.requireTables
    let database ← outcome
    connection.requireWritable
    return database
  match checked with
  | .error error => (.error error, connection)
  | .ok database => (.ok (), { connection.statementEnd with database := database })

/-- While parents are enforced, the rows of a table that others refer to are deleted before the table is dropped.
They count as changed, and the drop is refused where one of them has children. -/
def dropTable (connection : Connection) (name : String) : Except EngineError Unit × Connection :=
  let database := connection.database
  let items := database.items.filter fun item => !sameName item.name name
  match connection.redefine (.dropTable name) (do
    let _ ← database.tableOr name .droppingView .droppingTable
    return { database with items := items }) with
  | (.error error, connection) => (.error error, connection)
  | (.ok (), dropped) =>
      match database.table? name with
      | none => (.ok (), dropped)
      | some table =>
          if connection.foreignKeys && !(database.referring name).isEmpty then
            let references := database.references table fun _ => true
            if table.entries.any fun entry => 0 < references.children entry.values then
              (.error .foreignKey, connection.statementFailed)
            else (.ok (), { dropped with changes := table.entries.length })
          else (.ok (), dropped)

def createView (connection : Connection) (name : String) : Except EngineError Unit × Connection :=
  connection.redefine (.createView name) (connection.database.createView name)

def dropColumn (connection : Connection) (name column : String) : Except EngineError Unit × Connection :=
  connection.redefine (.dropColumn name column) (connection.database.dropColumn name column)

def renameColumn (connection : Connection) (name column target : String) : Except EngineError Unit × Connection :=
  connection.redefine (.renameColumn name column target) (connection.database.renameColumn name column target)

def renameTable (connection : Connection) (name target : String) : Except EngineError Unit × Connection :=
  connection.redefine (.renameTable name target) (connection.database.renameTable name target)

/-- A version that does not fit its 32 bits is taken as zero. -/
def setVersion (connection : Connection) (version : Int) : Except EngineError Unit × Connection :=
  match connection.requireWritable with
  | .error error => (.error error, connection)
  | .ok () =>
      let fitting : Int := if version ∈ IntRange.signed32 then version else 0
      (.ok (), { connection.statementEnd with
        database := { connection.database with version := Int32.ofInt fitting } })

end Connection
end EntityStore.Engine
