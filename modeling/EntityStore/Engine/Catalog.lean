import EntityStore.Engine.Error
import EntityStore.Engine.Table

/-! The catalog: relations in which a database describes itself. They can be read under reserved names and never
changed, and stand behind tables and views of the same name. -/

namespace EntityStore.Engine

/-- A relation of the catalog under the name that messages use. -/
structure CatalogPart where
  name : String
  relation : Relation

namespace CatalogPart

private def plain (name : String) : Column := { name := name, type := "", required := false }

private def number (rows : List Row) : List Entry :=
  (rows.mapIdx fun index row => ⟨index + 1, row⟩).reverse

private def natural (n : Nat) : Value := .integer (Int64.ofNat n)

/-- Tables, the indexes behind their keys, and views, each with its kind, its name, the table it is about, its
first page, and the text that defines it. -/
def schema (name : String) (items : List Item) : CatalogPart :=
  let column (name type : String) : Column := { name := name, type := type, required := false }
  let columns :=
    [column "type" "TEXT", column "name" "TEXT", column "tbl_name" "TEXT", column "rootpage" "INT",
      column "sql" "TEXT"]
  let rows (item : Item) : List Row :=
    match item with
    | .table table =>
        [.text "table", .text table.name, .text table.name, natural table.page, .text table.definition] ::
          table.indexNames.mapIdx fun place name =>
            [.text "index", .text name, .text table.name, natural (table.page + place + 1), .null]
    | .view name => [[.text "view", .text name, .text name, natural 0, .text (viewDefinition name)]]
  ⟨name, ⟨columns, .named, [], number (items.flatMap rows), true⟩⟩

def version (database : Database) : CatalogPart :=
  ⟨"pragma_user_version",
    ⟨[plain "user_version"], .named, [], number [[.integer (Int64.ofInt database.version.toInt)]], true⟩⟩

def columns (database : Database) (argument : Option String) : CatalogPart :=
  let row (argument : String) (index : Nat) (column : Column) (primaryPlace : Nat) : Row :=
    [natural index, .text column.name, .text column.type, .ofBool column.required, .null, natural primaryPlace,
      .text argument, .null]
  let rows := match argument, argument.bind database.item? with
    | some name, some (.table table) =>
        table.columns.mapIdx fun index column => row name index column (table.primaryPlace index)
    | some name, some (.view _) => viewRelation.columns.mapIdx fun index column => row name index column 0
    | _, _ => []
  let names := ["cid", "name", "type", "notnull", "dflt_value", "pk", "arg", "schema"]
  ⟨"pragma_table_info", ⟨names.map plain, .named, [], number rows, true⟩⟩

def argument? (condition : Option (String × Value)) : Option String :=
  match condition with
  | some (column, .text content) => if sameName column "arg" then some content else none
  | _ => none

end CatalogPart

namespace Database

/-- Names of what describes the tables, and of what would describe temporary ones. -/
def schemaNames : List String := ["sqlite_master", "sqlite_schema"]

def temporaryNames : List String := ["sqlite_temp_master", "sqlite_temp_schema"]

/-- The part of the catalog that a reserved name stands for. There is nothing temporary. -/
def catalogPart? (database : Database) (name : String) (condition : Option (String × Value)) : Option CatalogPart :=
  match name.toLower with
  | "sqlite_master" | "sqlite_schema" => some (.schema "sqlite_master" database.items)
  | "sqlite_temp_master" | "sqlite_temp_schema" => some (.schema "sqlite_temp_master" [])
  | "pragma_user_version" => some (.version database)
  | "pragma_table_info" => some (.columns database (CatalogPart.argument? condition))
  | _ => none

/-- What a statement reads from under a name and a condition. -/
def source (database : Database) (name : String) (condition : Option (String × Value)) :
    Except EngineError Relation :=
  match database.item? name, database.catalogPart? name condition with
  | some (.table table), _ => .ok table.toRelation
  | some (.view _), _ => .ok viewRelation
  | none, some part => .ok part.relation
  | none, none => .error (.noSuchTable name)

/-- The table of a name, or why it is none that can be changed. -/
def tableOr (database : Database) (name : String) (onView onCatalog : String → EngineError) :
    Except EngineError Table :=
  match database.item? name, database.catalogPart? name none with
  | some (.table table), _ => .ok table
  | some (.view view), _ => .error (onView view)
  | none, some part => .error (onCatalog part.name)
  | none, none => .error (.noSuchTable name)

def writable (database : Database) (name : String) : Except EngineError Table :=
  database.tableOr name .viewIsReadOnly .tableIsReadOnly

end Database
end EntityStore.Engine
