import EntityStore.Proofs.Migrating
import Mathlib

/-! Opening files. What is handed out has been migrated, what was stored in a file stays there, and a file of the latest
version can be opened again and again without a change. -/

namespace EntityStore
open Engine

namespace Directory
variable {directory other : Directory} {name : String}

@[simp] theorem read?_write (directory : Directory) (name : String) (content : FileContent) :
    (directory.write name content).read? name = some content := List.lookup_cons_self

theorem read?_without {names : List String} (kept : name ∉ names) :
    (directory.without names).read? name = directory.read? name := by
  obtain ⟨files⟩ := directory
  unfold without read?
  induction files with
  | nil => rfl
  | cons file rest ih =>
    obtain ⟨other, content⟩ := file
    by_cases same : name = other
    · subst same
      rw [List.filter_cons_of_pos (by simpa using kept), List.lookup_cons_self, List.lookup_cons_self]
    · have passes (files : List (String × FileContent)) : ((other, content) :: files).lookup name = files.lookup name := by
        rw [List.lookup_cons, beq_false_of_ne same]
      rw [passes, List.filter_cons]
      split
      · rw [passes, ih]
      · exact ih

theorem not_mem_sideNames : name ∉ sideNames name := by
  intro member
  obtain ⟨suffix, listed, same⟩ := List.mem_map.mp member
  have long : (name ++ suffix).length = name.length := by rw [same]
  rw [String.length_append] at long
  have empty : suffix.length = 0 := by omega
  rcases List.mem_cons.mp listed with rfl | rest
  · cases empty
  · cases List.mem_singleton.mp rest
    cases empty

theorem database_congr (same : other.read? name = directory.read? name) :
    other.database name = directory.database name := by
  unfold database
  rw [same]

theorem settle_database : (directory.settle name).database name = directory.database name :=
  database_congr (read?_without fun member => not_mem_sideNames (List.mem_of_mem_filter member))

theorem store_database (directory : Directory) (name : String) (database : Database) :
    (directory.store name database).database name = .ok (database, access name) := by
  unfold store Directory.database
  rw [read?_write]

theorem database_access {database : Database} {found : FileAccess}
    (read : directory.database name = .ok (database, found)) :
    found = access name ∨ ∃ cause, found = .tablesUnreadable cause := by
  unfold Directory.database at read
  split at read
  · cases read
    exact .inl rfl
  · cases read
    exact .inl rfl
  · obtain ⟨contents, -, read⟩ := bind_eq_ok.mp read
    split at read
    · cases read
      exact .inl rfl
    · cases read
      exact .inr ⟨_, rfl⟩

theorem database_readable {database : Database} {found : FileAccess}
    (read : directory.database name = .ok (database, found)) (cause : EngineError) : found ≠ .unreadable cause := by
  rcases database_access read with rfl | ⟨other, rfl⟩
  · unfold access
    split <;> exact FileAccess.noConfusion
  · exact FileAccess.noConfusion

end Directory

/-- A connection is handed out once it was configured and its migration has succeeded. -/
structure OpenMode.Prepares (mode : OpenMode) (directory : Directory) (connection : Connection) : Prop where
  migrated : ∃ start events, mode.connect directory = .ok start ∧
    (configured start).migrate = (.ok (), events, connection)
  version : connection.database.version.toInt = Migration.latest
  foreignKeys : connection.foreignKeys = true
  busyTimeout : connection.busyTimeout = busyTimeout
  idle : connection.autocommit = true

theorem OpenMode.openMigrated_prepares {mode : OpenMode} {directory : Directory} {connection : Connection}
    {events : List Event} (opened : mode.openMigrated directory = (.ok connection, events)) :
    mode.Prepares directory connection := by
  unfold openMigrated at opened
  dsimp only at opened
  split at opened
  · cases opened
  · rename_i start connected
    split at opened
    · cases opened
    · rename_i steps migrated ran
      cases opened
      obtain ⟨brought, -⟩ := Connection.migrate_ok ran
      obtain ⟨file, same⟩ := connect_opened connected
      have idle : start.autocommit = true := by
        rw [same]
        rfl
      rw [configured_idle idle] at brought
      refine ⟨⟨start, steps, connected, ran⟩, brought.version, brought.foreignKeys, brought.busyTimeout, ?_⟩
      rw [Connection.autocommit, brought.saved]
      exact idle

namespace Session
variable {directory : Directory} {path shown name : String} {database : Database} {access : FileAccess}
  {connection start : Connection}

theorem connect_file (named : Directory.fileName? path = some name) (short : name.utf8ByteSize ≤ Directory.longestName)
    (read : directory.database name = .ok (database, access)) :
    (OpenMode.file path shown).connect directory = .ok { Connection.ofDatabase database with file := access } := by
  unfold OpenMode.connect
  simp only [named, Option.filter_some, short, decide_true, if_true, read]

theorem connect_file_ok (named : Directory.fileName? path = some name)
    (connected : (OpenMode.file path shown).connect directory = .ok start) :
    ∃ database access, directory.database name = .ok (database, access) ∧
      start = { Connection.ofDatabase database with file := access } := by
  unfold OpenMode.connect at connected
  simp only [named, Option.filter_some] at connected
  split at connected
  · cases connected
  · rename_i found short
    split at short
    · cases short
      split at connected
      · rename_i database access read
        cases connected
        exact ⟨database, access, read, rfl⟩
      · cases connected
    · cases short

/-- What is kept in the directory once a connection to a file was handed out. -/
def kept (directory : Directory) (name : String) (connection : Connection) : Directory :=
  if connection.file.isReadable then directory.store name connection.committed else directory

theorem start_file (session : Session) (named : Directory.fileName? path = some name) :
    session.start (.file path shown) =
      match (OpenMode.file path shown).openMigrated (session.directory.settle name) with
      | (.ok connection, events) =>
          (.opened, events, ⟨some connection, some name, kept (session.directory.settle name) name connection⟩)
      | (.error error, events) => (.dbFailed error, events, ⟨none, none, session.directory.settle name⟩) := by
  unfold start
  simp only [OpenMode.fileName?, named, OpenMode.run]
  rfl

/-- The file holds what the connection shows. Where nothing can be written, the migration had nothing to do. -/
theorem kept_database (read : directory.database name = .ok (database, access))
    (brought : Connection.Brought { Connection.ofDatabase database with file := access } connection) :
    (kept directory name connection).database name = .ok (connection.database, access) := by
  have file : connection.file = access := brought.file
  have committed : connection.committed = connection.database := by
    rw [Connection.committed, brought.saved]
    rfl
  unfold kept
  rw [file, committed]
  rcases brought.written with same | writable
  · change connection.database = database at same
    rw [same]
    split
    · rename_i readable
      rcases Directory.database_access read with rfl | ⟨cause, rfl⟩
      · exact Directory.store_database directory name database
      · cases readable
    · exact read
  · change access = .writable at writable
    subst writable
    rcases Directory.database_access read with usual | ⟨cause, impossible⟩
    · change (directory.store name connection.database).database name = .ok (connection.database, .writable)
      rw [usual]
      exact Directory.store_database directory name connection.database
    · cases impossible

/-- What opening a file comes to. It stays as it is unless its tables are missing, and then gains these. -/
structure Opens (session : Session) (mode : OpenMode) (name : String) : Prop where
  opened : ∀ events after, session.start mode = (.opened, events, after) →
    ∃ database access connection, session.directory.database name = .ok (database, access) ∧
      after.connection = some connection ∧
      Connection.Brought { Connection.ofDatabase database with file := access } connection ∧
      after.directory.database name = .ok (connection.database, access)
  failed : ∀ error events after, session.start mode = (.dbFailed error, events, after) →
    after.directory.database name = session.directory.database name
  again : ∀ database access, name.utf8ByteSize ≤ Directory.longestName →
    session.directory.database name = .ok (database, access) → database.version.toInt = Migration.latest →
    ∃ events connection after, session.start mode = (.opened, events, after) ∧ after.connection = some connection ∧
      connection.database = database ∧ after.directory.database name = .ok (database, access)

theorem start_opens (session : Session) {mode : OpenMode} (named : mode.fileName? = some name) :
    session.Opens mode name := by
  cases mode with
  | memory | bare => cases named
  | file path shown =>
    change Directory.fileName? path = some name at named
    have settled : (session.directory.settle name).database name = session.directory.database name :=
      Directory.settle_database
    refine ⟨fun events after started => ?_, fun error events after started => ?_, fun database access short read version => ?_⟩
    · rw [start_file session named] at started
      split at started
      · rename_i connection steps ran
        cases started
        obtain ⟨start, _, connected, migrated⟩ := (OpenMode.openMigrated_prepares ran).migrated
        obtain ⟨database, access, read, rfl⟩ := connect_file_ok named connected
        rw [OpenMode.configured_ofDatabase] at migrated
        have brought := (Connection.migrate_ok migrated).1
        exact ⟨database, access, connection, settled ▸ read, rfl, brought, kept_database read brought⟩
      · cases started
    · rw [start_file session named] at started
      split at started
      · cases started
      · cases started
        exact settled
    · rw [← settled] at read
      have known : Connection.version { Connection.ofDatabase database with file := access } = .ok Migration.latest := by
        refine Connection.version_eq_ok.mpr ⟨?_, version⟩
        have readable := Directory.database_readable read
        unfold Connection.requireReadable
        cases access <;> simp_all
      have migrated := Connection.migrate_latest known
      have ran : (OpenMode.file path shown).openMigrated (session.directory.settle name) =
          (.ok { Connection.ofDatabase database with file := access },
            [.opening "file", .opened "file"]) := by
        simp only [OpenMode.openMigrated, connect_file named short read, OpenMode.configured_ofDatabase, migrated]
        rfl
      rw [start_file session named, ran]
      refine ⟨_, _, _, rfl, rfl, rfl, ?_⟩
      exact kept_database read (Connection.migrate_ok migrated).1

end Session

/-- Migrations are whole and happen once, connections are handed out after theirs, and files can be opened again. -/
theorem migrations_last :
    (∀ connection : Connection, connection.Migrates) ∧
      (∀ (mode : OpenMode) (directory : Directory) (connection : Connection) (events : List Event),
        mode.openMigrated directory = (.ok connection, events) → mode.Prepares directory connection) ∧
      ∀ (session : Session) (mode : OpenMode) (name : String), mode.fileName? = some name → session.Opens mode name :=
  ⟨Connection.migrates, fun _ _ _ _ opened => OpenMode.openMigrated_prepares opened,
    fun session _ _ named => session.start_opens named⟩

/-- A migration that finds one of its tables already there, a new database in memory, and a file opened again. -/
theorem migrations_last_started :
    let started := Connection.ofDatabase ⟨0, [.table Migration.girlScout]⟩
    let fresh := { Connection.ofDatabase (Contents.database fun _ => []) with knowsTables := true }
    let mode : OpenMode := .file "./db" "./db"
    let session : Session := ⟨none, none, ⟨[("db", .database ⟨1, [.table Migration.girlScout]⟩)]⟩⟩
    started.migrate.1.isOk = false ∧ started.Migrates ∧
      (OpenMode.openMigrated .memory .empty).1 = .ok fresh ∧ OpenMode.Prepares .memory .empty fresh ∧
      mode.fileName? = some "db" ∧ session.Opens mode "db" := by
  intro started fresh mode session
  have opened := OpenMode.openMigrated_memory .empty
  have split : "./db".splitOn "/" = [".", "db"] := by cbv
  have named : mode.fileName? = some "db" := by
    simp only [mode, OpenMode.fileName?, Directory.fileName?, Directory.parts, split]
    rfl
  obtain ⟨migrates, prepares, opens⟩ := migrations_last
  refine ⟨by decide +kernel, migrates started, congrArg Prod.fst opened, ?_, named, ?_⟩
  · exact prepares .memory .empty fresh _ opened
  · exact opens session mode "db" named

end EntityStore
