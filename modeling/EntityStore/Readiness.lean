import EntityStore.Migration

/-! Whether a connection has what an entity's statements need. Names are compared exactly, and a view does not
stand for a table. What lists the columns of a table leaves out generated ones and prefers a temporary table of the
name, neither of which a database has here. -/

namespace EntityStore.Engine

namespace Database

/-- What lists the columns of a table. Nothing else may have its name. -/
def columnList : String := "pragma_table_info"

def requireTable (database : Database) (name : String) (columns : List String) : Except DbError Unit :=
  match database.tables.find? (·.name == name) with
  | none => .error (.missingTable name)
  | some table =>
      if (database.item? columnList).isSome then .error (.engine (.notAFunction columnList))
      else
        match columns.find? fun column => !table.columns.any (·.name == column) with
        | some column => .error (.missingColumn name column)
        | none => .ok ()

/-- The parent table with all its columns, then the table of each collection. -/
def requireSchema (database : Database) (schema : Schema) : Except DbError Unit := do
  database.requireTable schema.table schema.columnNames
  schema.collections.forM fun collection => database.requireTable collection.table Collection.columnNames

end Database

namespace Connection

def requireSchema (connection : Connection) (schema : Schema) : Except DbError Unit :=
  match connection.requireTables, connection.requireReadable with
  | .error error, _ | .ok (), .error error => .error (.engine error)
  | .ok (), .ok () => connection.database.requireSchema schema

def requireLatest (connection : Connection) : Except DbError Unit := do
  let found ← connection.version
  if found = Migration.latest then .ok () else .error (.uninitialized Migration.latest found)

def requireReady (connection : Connection) (schema : Schema) : Except DbError Unit := do
  connection.requireLatest
  connection.requireSchema schema

end Connection
end EntityStore.Engine
