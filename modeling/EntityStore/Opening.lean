import EntityStore.Engine.Image
import EntityStore.Migration

/-! Opening databases, in memory or in a file of one directory. A connection is handed out only with parents
enforced and the database at the latest version. -/

namespace EntityStore

open Engine (Database Connection)

/-- What a file holds: a committed database, or octets from elsewhere. -/
inductive FileContent where
  | database (database : Database)
  | octets (octets : List UInt8)
  deriving DecidableEq, Repr

/-- The files of a directory that has no directories in it. -/
structure Directory where
  files : List (String × FileContent)
  deriving DecidableEq, Repr

namespace Directory

def empty : Directory := ⟨[]⟩

def read? (directory : Directory) (name : String) : Option FileContent := directory.files.lookup name

def write (directory : Directory) (name : String) (content : FileContent) : Directory :=
  ⟨(name, content) :: directory.files.filter (·.1 != name)⟩

/-- The parts of a path, each of them taking the path one step down or up. -/
def parts (path : String) : List String :=
  let step (taken : List String) (part : String) : List String :=
    if part = "" ∨ part = "." then taken else if part = ".." then taken.drop 1 else part :: taken
  ((path.splitOn "/").foldl step []).reverse

def fileName? (path : String) : Option String :=
  match parts path with
  | [name] => some name
  | _ => none

/-- A file system takes names of so many octets. -/
def longestName : Nat := 255

/-- What the names of the files beside a database end in while it is written. -/
def sideSuffixes : List String := ["-journal", "-wal"]

def sideNames (name : String) : List String := sideSuffixes.map (name ++ ·)

/-- Writing needs names for the files beside. -/
def access (name : String) : Engine.FileAccess :=
  if (sideNames name).all (·.utf8ByteSize ≤ longestName) then .writable else .unwritable

def without (directory : Directory) (names : List String) : Directory :=
  ⟨directory.files.filter fun file => !names.contains file.1⟩

/-- The database in a file, which is empty where there is no file, and what can be done with the file. A database
whose tables cannot be made out is taken for one without tables. -/
def database (directory : Directory) (name : String) : Except EngineError (Database × Engine.FileAccess) :=
  match directory.read? name with
  | none => .ok (.empty, access name)
  | some (.database database) => .ok (database, access name)
  | some (.octets octets) => do
      let contents ← Engine.Image.read octets
      match contents.items with
      | .ok items => return (⟨contents.version, items⟩, access name)
      | .error cause => return (⟨contents.version, []⟩, .tablesUnreadable cause)

/-- Whether a side file says that writing was interrupted, so it does not outlive the next reader. It says so by its
first octet, and counts for nothing beside a file without content. -/
def isStale (directory : Directory) (name side : String) : Bool :=
  match directory.read? name, directory.read? side with
  | none, _ | some (.octets []), _ | some (.octets [_]), _ => true
  | _, some (.octets (first :: _)) => first != 0
  | _, some (.database _) => true
  | _, _ => false

/-- Reading a database clears away what interrupted writers left beside it. -/
def settle (directory : Directory) (name : String) : Directory :=
  directory.without ((sideNames name).filter (directory.isStale name))

/-- Writes a database. What changes it clears away the files beside it. -/
def store (directory : Directory) (name : String) (database : Database) : Directory :=
  let sides := (sideNames name).filter fun side => (directory.read? side).isSome
  let unchanged := sides.isEmpty || directory.read? name == some (.database database)
  (if unchanged then directory else directory.without sides).write name (.database database)

end Directory

inductive OpenMode where
  | memory
  /-- A path, and the same path as messages show it. -/
  | file (path shown : String)
  /-- In memory and without any tables. -/
  | bare
  deriving DecidableEq, Repr

namespace OpenMode

def word : OpenMode → String
  | .memory => "memory"
  | .file .. => "file"
  | .bare => "bare"

def fileName? : OpenMode → Option String
  | .file path _ => Directory.fileName? path
  | .memory | .bare => none

/-- A connection before any statement has run on it. That a file is no database is noticed only when the connection
is prepared. -/
def connect (mode : OpenMode) (directory : Directory) : Except (OpenStage × EngineError) Connection :=
  match mode with
  | .memory | .bare => .ok (.ofDatabase .empty)
  | .file path shown =>
      match (Directory.fileName? path).filter (·.utf8ByteSize ≤ Directory.longestName) with
      | none => .error (.connect, .cannotOpen (some shown))
      | some name =>
          match directory.database name with
          | .ok (database, access) => .ok { Connection.ofDatabase database with file := access }
          | .error error => .error (.bootstrap, error)

/-- How long a statement on a connection that is handed out waits for a lock, in milliseconds. -/
def busyTimeout : Nat := 5000

/-- What is set on a connection before its database is brought to the latest version. -/
def configured (connection : Connection) : Connection := (connection.setForeignKeys 1).setBusyTimeout busyTimeout

def openMigrated (mode : OpenMode) (directory : Directory) : Except DbError Connection × List Event :=
  let opening : Event := .opening mode.word
  match mode.connect directory with
  | .error (stage, cause) => (.error (.engine cause), [opening, .openFailed mode.word stage (.engine cause)])
  | .ok connection =>
      match (configured connection).migrate with
      | (.error error, events, _) => (.error error, opening :: events ++ [.openFailed mode.word .bootstrap error])
      | (.ok (), events, migrated) => (.ok migrated, opening :: events ++ [.opened mode.word])

/-- A bare connection is handed out as it is and says nothing. -/
def run (mode : OpenMode) (directory : Directory) : Except DbError Connection × List Event :=
  match mode with
  | .bare => (.ok (.ofDatabase .empty), [])
  | .memory | .file .. => mode.openMigrated directory

end OpenMode
end EntityStore
