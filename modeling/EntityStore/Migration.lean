import EntityStore.Engine.Connection
import EntityStore.Event
import EntityStore.Scout

/-! The tables of the scouts and the steps that create them. A database records the last step applied to it, and
steps are applied in one transaction, all that are pending or none. -/

namespace EntityStore

open Engine (Table Database Connection)

namespace Migration

/-- A table to create and the text that stands before its definition. -/
structure Creation where
  leading : String
  table : Table

structure Step where
  version : Nat
  name : String
  creations : List Creation

def definitionOpening : String := "CREATE TABLE "

/-- One line for each column, and one for a primary key of several columns. -/
def definitionLines (columns : List Engine.Column) (keyWidth : Nat) (parent : Option String) : List String :=
  let line (index : Nat) (column : Engine.Column) : String :=
    column.name ++ " " ++ column.type ++ (if keyWidth == 1 && index == 0 then " PRIMARY KEY" else "") ++
      (if column.required then " NOT NULL" else "") ++
      (if index == 0 then parent.elim "" (" REFERENCES " ++ · ++ " (id)") else "")
  let names := (columns.take keyWidth).map (·.name)
  columns.mapIdx line ++ if keyWidth == 1 then [] else ["PRIMARY KEY (" ++ ", ".intercalate names ++ ")"]

def definition (name : String) (lines : List String) : String :=
  definitionOpening ++ name ++ " (\n" ++ ",\n".intercalate (lines.map ("    " ++ ·)) ++ "\n)"

/-- A table whose leading columns are its primary key, and whose first column may refer to that of a parent. -/
def table (name : String) (columns : List Engine.Column) (keyWidth : Nat) (parent : Option String) : Table where
  columns := columns
  numbering := .named
  keys := [⟨List.range keyWidth, true⟩]
  entries := []
  intact := true
  name := name
  references := parent.toList.map (⟨0, ·, some "id"⟩)
  definition := definition name (definitionLines columns keyWidth parent)
  page := 0

def key (name : String) : Engine.Column := { name := name, type := "TEXT", required := true }

def text (name : String) : Engine.Column := { name := name, type := "TEXT", required := false }

def integer (name : String) : Engine.Column := { name := name, type := "INTEGER", required := false }

def boyScout : Table :=
  table "boy_scout"
    [key "id", text "full_name", text "short_name", text "birthdate", integer "join_time", text "country_code",
      text "language_code", integer "pack_code", integer "rank", text "iana_country_code", integer "what_about_this",
      text "big_unsigned_int"] 1 none

def collection (name : String) (value : Engine.Column) : Table :=
  table name [key "id", { name := "ordinality", type := "INTEGER", required := true }, value] 2 (some "boy_scout")

def badges : Table := collection "boy_scout_badges" (integer "value")

def favoriteSongs : Table := collection "boy_scout_favorite_songs" (text "value")

def campingTrips : Table := collection "boy_scout_camping_trips" (text "value")

def mask : Table := collection "boy_scout_mask" (text "value")

def girlScout : Table := table "girl_scout" [key "id"] 1 none

def tables : List Table := [boyScout, badges, favoriteSongs, campingTrips, mask, girlScout]

def heading : String :=
  "-- Scout entities and their ordered child collections.\n" ++
    "-- NULL in any scalar column stands for the field's zero value.\n"

def creations : List Table → String → List Creation
  | [], _ => []
  | table :: rest, leading => ⟨leading, table⟩ :: creations rest "\n\n"

def steps : List Step := [⟨1, "scouts", creations tables (heading ++ "\n")⟩]

/-- The version that all steps together lead to. -/
def latest : Nat := (steps.getLast?.map (·.version)).getD 0

/-- The definitions as one script, each after the text that leads to it. -/
def script : List Creation → String
  | [] => "\n"
  | creation :: rest => creation.leading ++ creation.table.definition ++ ";" ++ script rest

/-- What is already there under the name of a table to create. -/
def taken? (database : Database) (name : String) : Option EngineError :=
  match database.item? name with
  | some (.table _) => some (.tableExists name)
  | some (.view _) => some (.viewExists name)
  | none => none

def create (database : Database) : List Creation → Except EngineError Database
  | [] => .ok database
  | creation :: rest =>
      match taken? database creation.table.name with
      | some cause =>
          .error (.located cause (script (creation :: rest))
            (creation.leading.utf8ByteSize + definitionOpening.utf8ByteSize))
      | none => create (database.add creation.table) rest

/-- Applies steps in order, each recording its version. -/
def apply (database : Database) : List Step → Except EngineError (Database × List Event)
  | [] => .ok (database, [])
  | step :: rest => do
      let created ← create database step.creations
      let (final, events) ← apply { created with version := Int32.ofInt step.version } rest
      return (final, .stepApplied step.version step.name :: events)

end Migration

namespace Engine.Connection

def version (connection : Connection) : Except DbError Nat :=
  match connection.requireReadable with
  | .error error => .error (.engine error)
  | .ok () =>
      let version := connection.database.version.toInt
      if 0 ≤ version then .ok version.toNat else .error (.engine (.integerOutOfRange version 0))

/-- Applies the steps above a version in a transaction of its own. -/
def applyPending (connection : Connection) (found : Nat) : Except DbError Unit × List Event × Connection :=
  match { connection with knowsTables := true : Connection }.begin with
  | (.error error, connection) => (.error (.engine error), [], connection)
  | (.ok (), opened) =>
      let applied : Except EngineError (Database × List Event) := do
        opened.requireTables
        opened.requireWritable
        Migration.apply opened.database (Migration.steps.filter (found < ·.version))
      match applied with
      | .error error => (.error (.engine error), [], opened.rollback.2)
      | .ok (database, events) =>
          match { opened with database := database : Connection }.commit with
          | (.error error, failed) => (.error (.engine error), events, failed.rollback.2)
          | (.ok (), committed) => (.ok (), events ++ [.migrated found Migration.latest], committed)

/-- Brings the database to the latest version. One from a later version is refused. -/
def migrate (connection : Connection) : Except DbError Unit × List Event × Connection :=
  match connection.version with
  | .error error => (.error error, [], connection)
  | .ok found =>
      if found = Migration.latest then (.ok (), [], connection)
      else if Migration.latest < found then (.error (.unsupportedVersion found Migration.latest), [], connection)
      else connection.applyPending found

end Engine.Connection
end EntityStore
