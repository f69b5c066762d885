import EntityStore.Opening
import EntityStore.Proofs.Scouts.Holding

/-! Freshly migrated databases. Whatever file is behind it, a connection that was brought to the latest version from
nothing has all tables of the scouts and no rows. -/

namespace EntityStore
open Engine

/-- A connection that was opened on an empty database and migrated. -/
def Fresh (connection : Connection) : Prop :=
  ∃ (mode : OpenMode) (directory : Directory) (start : Connection),
    mode.connect directory = .ok start ∧ start.database = .empty ∧ (mode.openMigrated directory).1 = .ok connection

theorem Migration.create_empty :
    Migration.create .empty (Migration.creations Migration.tables (Migration.heading ++ "\n")) =
      .ok { Contents.database fun _ => [] with version := 0 } := by
  decide +kernel

theorem Migration.apply_empty :
    Migration.apply .empty Migration.steps = .ok (Contents.database fun _ => [], [.stepApplied 1 "scouts"]) := by
  simp only [Migration.apply, Migration.steps, Migration.create_empty]
  rfl

namespace Engine.Connection

/-- Whether a connection is one that has just been opened, but for its file. -/
def Opened (connection : Connection) : Prop :=
  ∃ file, connection = { Connection.ofDatabase connection.database with file := file }

end Engine.Connection

theorem OpenMode.connect_opened {mode : OpenMode} {directory : Directory} {start : Connection}
    (connected : mode.connect directory = .ok start) : start.Opened := by
  cases mode with
  | memory =>
    cases connected
    exact ⟨_, rfl⟩
  | bare =>
    cases connected
    exact ⟨_, rfl⟩
  | file path shown =>
    unfold connect at connected
    dsimp only at connected
    split at connected
    · cases connected
    · split at connected
      · cases connected
        exact ⟨_, rfl⟩
      · cases connected

/-- Parents are enforced from here on, whether or not they were before. -/
theorem OpenMode.configured_idle {connection : Connection} (idle : connection.autocommit = true) :
    configured connection = { connection with foreignKeys := true, busyTimeout := busyTimeout } := by
  unfold configured Connection.setForeignKeys
  rw [if_pos idle]
  rfl

theorem OpenMode.configured_ofDatabase (database : Database) (file : FileAccess) :
    configured { Connection.ofDatabase database with file := file } =
      { Connection.ofDatabase database with file := file } := configured_idle rfl

theorem Engine.Connection.migrate_ofDatabase :
    (Connection.ofDatabase .empty).migrate =
      (.ok (), [.stepApplied 1 "scouts", .migrated 0 Migration.latest],
        { Connection.ofDatabase (Contents.database fun _ => []) with knowsTables := true }) := by
  have pending : Migration.steps.filter (0 < ·.version) = Migration.steps := rfl
  change Connection.applyPending (Connection.ofDatabase .empty) 0 = _
  simp only [applyPending, Connection.begin, Connection.ofDatabase, autocommit, Option.isNone_none, if_true,
    requireTables, requireWritable, requireReadable, pending, Migration.apply_empty]
  rfl

theorem OpenMode.openMigrated_memory (directory : Directory) :
    openMigrated .memory directory =
      (.ok { Connection.ofDatabase (Contents.database fun _ => []) with knowsTables := true },
        [.opening "memory", .stepApplied 1 "scouts", .migrated 0 Migration.latest, .opened "memory"]) := by
  have configured : configured (.ofDatabase .empty) = .ofDatabase .empty := configured_ofDatabase .empty .writable
  simp only [openMigrated, connect, configured, Connection.migrate_ofDatabase]
  rfl

/-- A migration that succeeds could write to the file, and its database is that of every other. -/
theorem Engine.Connection.migrate_empty {connection migrated : Connection} {events : List Event}
    (opened : connection.Opened) (empty : connection.database = .empty)
    (migrates : connection.migrate = (.ok (), events, migrated)) :
    migrated = { Connection.ofDatabase (Contents.database fun _ => []) with knowsTables := true } := by
  obtain ⟨file, same⟩ := opened
  rw [empty] at same
  subst same
  cases file with
  | writable =>
    have done := migrates.symm.trans Connection.migrate_ofDatabase
    cases done
    rfl
  | unwritable | tablesUnreadable cause | unreadable cause => cases migrates

namespace Fresh
variable {connection : Connection}

theorem connection_eq (fresh : Fresh connection) :
    connection = { Connection.ofDatabase (Contents.database fun _ => []) with knowsTables := true } := by
  obtain ⟨mode, directory, start, connected, empty, opened⟩ := fresh
  obtain ⟨file, same⟩ := OpenMode.connect_opened connected
  have configured : OpenMode.configured start = start := by
    rw [same]
    exact OpenMode.configured_ofDatabase start.database file
  unfold OpenMode.openMigrated at opened
  simp only [connected, configured] at opened
  rcases migrates : start.migrate with ⟨_ | _, events, migrated⟩
  · rw [migrates] at opened
    cases opened
  · rw [migrates] at opened
    cases opened
    exact Connection.migrate_empty ⟨file, same⟩ empty migrates

theorem idle (fresh : Fresh connection) : connection.autocommit = true := by
  rw [fresh.connection_eq]
  rfl

theorem holds (fresh : Fresh connection) : Holds connection fun _ => [] := by
  rw [fresh.connection_eq]
  exact Contents.holds (fun _ => .nil) (fun _ _ member => absurd member List.not_mem_nil) fun _ => .nil

theorem memory : Fresh { Connection.ofDatabase (Contents.database fun _ => []) with knowsTables := true } :=
  ⟨.memory, .empty, .ofDatabase .empty, rfl, rfl, congrArg Prod.fst (OpenMode.openMigrated_memory .empty)⟩

end Fresh
end EntityStore
