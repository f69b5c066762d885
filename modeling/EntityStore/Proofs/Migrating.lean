import EntityStore.Proofs.Scouts.Fresh
import EntityStore.Session
import Mathlib.Data.List.Flatten

/-! Migrations. Steps add tables after those that are there and never touch these, and a migration takes effect with the
version it records or leaves everything as it was. Hence a file can be opened any number of times. -/

namespace EntityStore
open Engine

namespace Migration

def Step.names (step : Step) : List String := step.creations.map (·.table.name)

/-- What a database gains by steps: tables of their names, which were not taken. -/
def Gains (before : Database) (names : List String) (after : Database) : Prop :=
  ∃ added, after.items = before.items ++ added ∧ added.map (·.name) = names ∧
    ∀ name ∈ names, before.item? name = none

theorem Gains.refl (database : Database) : Gains database [] database :=
  ⟨[], (List.append_nil _).symm, rfl, fun _ impossible => absurd impossible List.not_mem_nil⟩

theorem Gains.trans {first second third : Database} {early late : List String} (gained : Gains first early second)
    (more : Gains second late third) : Gains first (early ++ late) third := by
  obtain ⟨added, here, names, free⟩ := gained
  obtain ⟨others, there, later, untaken⟩ := more
  refine ⟨added ++ others, ?_, ?_, fun name member => ?_⟩
  · rw [there, here, List.append_assoc]
  · rw [List.map_append, names, later]
  · rcases List.mem_append.mp member with known | new
    · exact free name known
    · -- A name that is free among more tables is free among fewer.
      have none := untaken name new
      rw [Database.item?, here, List.find?_append, Option.or_eq_none_iff] at none
      exact none.1

theorem taken?_eq_none {database : Database} {name : String} : taken? database name = none ↔ database.item? name = none := by
  unfold taken?
  split <;> simp_all

theorem create_ok {database created : Database} {creations : List Creation}
    (done : create database creations = .ok created) :
    created.version = database.version ∧ Gains database (creations.map (·.table.name)) created := by
  induction creations generalizing database with
  | nil =>
    cases done
    exact ⟨rfl, .refl _⟩
  | cons creation rest ih =>
    unfold create at done
    split at done
    · cases done
    · rename_i free
      obtain ⟨version, gains⟩ := ih done
      have first : Gains database [creation.table.name] (database.add creation.table) :=
        ⟨_, rfl, rfl, fun name member => List.mem_singleton.mp member ▸ taken?_eq_none.mp free⟩
      exact ⟨version, first.trans gains⟩

theorem apply_cons_ok {database final : Database} {step : Step} {rest : List Step} {events : List Event}
    (done : apply database (step :: rest) = .ok (final, events)) :
    ∃ created later, create database step.creations = .ok created ∧
      apply { created with version := Int32.ofInt step.version } rest = .ok (final, later) := by
  unfold apply at done
  obtain ⟨created, makes, done⟩ := bind_eq_ok.mp done
  obtain ⟨⟨reached, later⟩, applies, done⟩ := bind_eq_ok.mp done
  cases done
  exact ⟨created, later, makes, applies⟩

theorem apply_gains {database final : Database} {steps : List Step} {events : List Event}
    (done : apply database steps = .ok (final, events)) : Gains database (steps.flatMap Step.names) final := by
  induction steps generalizing database events with
  | nil =>
    cases done
    exact .refl _
  | cons step rest ih =>
    obtain ⟨created, later, makes, applies⟩ := apply_cons_ok done
    have first : Gains database step.names { created with version := Int32.ofInt step.version } := (create_ok makes).2
    exact first.trans (ih applies)

theorem apply_version {database final : Database} {steps : List Step} {events : List Event} {last : Step}
    (done : apply database (steps ++ [last]) = .ok (final, events)) : final.version = Int32.ofInt last.version := by
  induction steps generalizing database events with
  | nil =>
    obtain ⟨created, later, -, applies⟩ := apply_cons_ok done
    cases applies
    rfl
  | cons step rest ih =>
    obtain ⟨created, later, -, applies⟩ := apply_cons_ok done
    exact ih applies

/-- Whether tables can be created under some names one after the other. -/
structure Free (database : Database) (names : List String) : Prop where
  untaken : ∀ name ∈ names, database.item? name = none
  apart : names.Pairwise fun name other => sameName name other = false

theorem Free.add {database : Database} {table : Table} {names : List String}
    (free : Free database (table.name :: names)) : Free (database.add table) names := by
  obtain ⟨untaken, apart⟩ := free
  obtain ⟨other, apart⟩ := List.pairwise_cons.mp apart
  refine ⟨fun name member => ?_, apart⟩
  have before := untaken name (List.mem_cons_of_mem _ member)
  rw [Database.item?] at before ⊢
  rw [Database.add, List.find?_append, before, Option.none_or, List.find?_singleton]
  exact if_neg (Bool.eq_false_iff.mp (other name member))

theorem create_free {database : Database} {creations : List Creation} {names : List String}
    (free : Free database (creations.map (·.table.name) ++ names)) :
    ∃ created, create database creations = .ok created ∧ Free created names := by
  induction creations generalizing database with
  | nil => exact ⟨database, rfl, free⟩
  | cons creation rest ih =>
    have first := taken?_eq_none.mpr (free.untaken creation.table.name List.mem_cons_self)
    simp only [create, first]
    exact ih free.add

theorem apply_free {database : Database} {steps : List Step} (free : Free database (steps.flatMap Step.names)) :
    ∃ reached, apply database steps = .ok reached := by
  induction steps generalizing database with
  | nil => exact ⟨_, rfl⟩
  | cons step rest ih =>
    obtain ⟨created, makes, others⟩ := create_free free
    obtain ⟨⟨final, events⟩, applies⟩ := ih (show Free { created with version := Int32.ofInt step.version } _ from
      ⟨others.untaken, others.apart⟩)
    refine ⟨(final, .stepApplied step.version step.name :: events), ?_⟩
    simp only [apply, makes, applies, bind, Except.bind]
    rfl

/-- The steps that a database of some version still needs. -/
def pending (found : Nat) : List Step := steps.filter (found < ·.version)

theorem pending_latest : pending latest = [] := rfl

theorem pending_before {found : Nat} (behind : found < latest) :
    ∃ (before : List Step) (last : Step), pending found = before ++ [last] ∧ last.version = latest := by
  rcases steps.eq_nil_or_concat' with none | ⟨before, last, listed⟩
  · rw [latest, none] at behind
    exact absurd behind (Nat.not_lt_zero found)
  · have final : last.version = latest := by
      rw [latest, listed, List.getLast?_concat]
      rfl
    refine ⟨before.filter (found < ·.version), last, ?_, final⟩
    rw [pending, listed, List.filter_append, List.filter_singleton, final, decide_eq_true behind]
    rfl

theorem pending_apart (found : Nat) :
    ((pending found).flatMap Step.names).Pairwise fun name other => sameName name other = false := by
  have all : (steps.flatMap Step.names).Pairwise fun name other => sameName name other = false := by decide +kernel
  exact all.sublist (List.filter_sublist.flatMap _)

end Migration

namespace Engine.Connection
variable {before after : Connection} {events : List Event}

/-- What a migration that succeeded has done. -/
structure Brought (before after : Connection) : Prop where
  version : after.database.version.toInt = Migration.latest
  gains : ∃ found : Nat, before.database.version.toInt = found ∧ found ≤ Migration.latest ∧
    Migration.Gains before.database ((Migration.pending found).flatMap Migration.Step.names) after.database
  saved : after.saved = before.saved
  foreignKeys : after.foreignKeys = before.foreignKeys
  busyTimeout : after.busyTimeout = before.busyTimeout
  file : after.file = before.file
  written : after.database = before.database ∨ before.file = .writable

theorem requireReadable_file (same : after.file = before.file) : after.requireReadable = before.requireReadable := by
  unfold requireReadable
  rw [same]

theorem version_eq_ok {connection : Connection} {found : Nat} :
    connection.version = .ok found ↔
      connection.requireReadable = .ok () ∧ connection.database.version.toInt = found := by
  unfold version
  split
  · rename_i error unreadable
    rw [unreadable]
    simp
  · rename_i readable
    dsimp only
    rw [readable, and_iff_right rfl]
    split
    · rw [Except.ok.injEq]
      omega
    · refine ⟨fun impossible => by (cases impossible), fun same => ?_⟩
      omega

theorem file_writable {connection : Connection} (tables : connection.requireTables = .ok ())
    (writable : connection.requireWritable = .ok ()) : connection.file = .writable := by
  unfold requireTables at tables
  unfold requireWritable requireReadable at writable
  cases file : connection.file <;> simp_all

/-- The steps and their version take effect with one commit. Whatever fails on the way, the rollback brings back what the
begin has saved. -/
theorem applyPending_cases {found : Nat} {outcome : Except DbError Unit}
    (ran : before.applyPending found = (outcome, events, after)) :
    match outcome with
    | .ok () => before.saved = none ∧ before.file = .writable ∧ ∃ database applied,
        Migration.apply before.database (Migration.pending found) = .ok (database, applied) ∧
        after = { before with database := database, deferring := false, pending := 0, knowsTables := true }
    | .error error => (∃ cause, error = .engine cause) ∧ after.database = before.database ∧ after.saved = before.saved := by
  unfold applyPending at ran
  cases saved : before.saved with
  | some database =>
    have refuses : { before with knowsTables := true : Connection }.begin =
        (.error .nestedTransaction, { before with knowsTables := true }) := by
      simp [begin, autocommit, saved]
    rw [refuses] at ran
    cases ran
    exact ⟨⟨_, rfl⟩, rfl, saved⟩
  | none =>
    have begins : { before with knowsTables := true : Connection }.begin =
        (.ok (), { before with saved := some before.database, knowsTables := true }) := by
      simp [begin, autocommit, saved]
    rw [begins] at ran
    dsimp only at ran
    split at ran
    · cases ran
      exact ⟨⟨_, rfl⟩, rfl, rfl⟩
    · rename_i database applied done
      obtain ⟨_, known, done⟩ := bind_eq_ok.mp done
      obtain ⟨_, writable, done⟩ := bind_eq_ok.mp done
      have file := file_writable known writable
      have commits : { before with
            database := database, saved := some before.database, knowsTables := true : Connection }.commit =
          if 0 < before.pending then
            (.error .foreignKey, { before with
              database := database, saved := some before.database, knowsTables := true })
          else (.ok (), { before with
            database := database, saved := none, deferring := false, pending := 0, knowsTables := true }) := rfl
      rw [commits] at ran
      by_cases waiting : 0 < before.pending
      · rw [if_pos waiting] at ran
        cases ran
        exact ⟨⟨_, rfl⟩, rfl, rfl⟩
      · rw [if_neg waiting] at ran
        cases ran
        refine ⟨rfl, file, database, applied, done, ?_⟩
        rw [← saved]

/-- Nothing but a name that is taken can keep steps from being applied to a file that can be written. -/
theorem applyPending_free {connection : Connection} {found : Nat} (idle : connection.autocommit = true)
    (file : connection.file = .writable) (complete : connection.pending ≤ 0)
    (untaken : ∀ name ∈ (Migration.pending found).flatMap Migration.Step.names, connection.database.item? name = none) :
    ∃ events after, connection.applyPending found = (.ok (), events, after) := by
  obtain ⟨⟨database, applied⟩, done⟩ := Migration.apply_free ⟨untaken, Migration.pending_apart found⟩
  unfold Migration.pending at done
  have waiting : ¬ 0 < connection.pending := by omega
  simp only [applyPending, begin, commit, requireTables, requireWritable, requireReadable, autocommit, file] at idle ⊢
  simp [idle, waiting, bind, Except.bind, done]

/-- A database of the latest version is left alone, one of an earlier version is brought up, and nothing else is
touched. -/
theorem migrate_cases {outcome : Except DbError Unit} (ran : before.migrate = (outcome, events, after)) :
    match outcome with
    | .ok () => before.version = .ok Migration.latest ∧ after = before ∨
        ∃ found, before.version = .ok found ∧ found < Migration.latest ∧
          before.applyPending found = (.ok (), events, after)
    | .error error => after.database = before.database ∧ after.saved = before.saved ∧
        ∀ found supported, error = .unsupportedVersion found supported →
          before.version = .ok found ∧ supported = Migration.latest ∧ Migration.latest < found := by
  unfold migrate at ran
  split at ran
  · rename_i refused
    cases ran
    refine ⟨rfl, rfl, fun found supported same => ?_⟩
    subst same
    unfold version at refused
    split at refused
    · cases refused
    · dsimp only at refused
      split at refused <;> cases refused
  · rename_i found known
    split at ran
    · rename_i latest
      cases ran
      exact .inl ⟨latest ▸ known, rfl⟩
    · rename_i other
      split at ran
      · rename_i newer
        cases ran
        refine ⟨rfl, rfl, fun _ _ same => ?_⟩
        cases same
        exact ⟨known, rfl, newer⟩
      · rename_i behind
        cases outcome with
        | ok _ => exact .inr ⟨found, known, by omega, ran⟩
        | error error =>
          obtain ⟨⟨cause, engine⟩, database, saved⟩ := applyPending_cases ran
          refine ⟨database, saved, fun _ _ same => ?_⟩
          cases engine.symm.trans same

theorem Brought.version_eq (brought : Brought before after) (readable : before.requireReadable = .ok ()) :
    after.version = .ok Migration.latest :=
  version_eq_ok.mpr ⟨(requireReadable_file brought.file).trans readable, brought.version⟩

theorem migrate_latest {connection : Connection} (known : connection.version = .ok Migration.latest) :
    connection.migrate = (.ok (), [], connection) := by
  simp only [migrate, known, if_true]

theorem migrate_ok (ran : before.migrate = (.ok (), events, after)) :
    Brought before after ∧ after.migrate = (.ok (), [], after) := by
  have brought : Brought before after ∧ before.requireReadable = .ok () := by
    rcases migrate_cases ran with ⟨known, rfl⟩ | ⟨found, known, behind, applied⟩
    · obtain ⟨readable, version⟩ := version_eq_ok.mp known
      exact ⟨⟨version, ⟨_, version, Nat.le_refl _, Migration.pending_latest ▸ .refl _⟩, rfl, rfl, rfl, rfl, .inl rfl⟩,
        readable⟩
    · obtain ⟨readable, version⟩ := version_eq_ok.mp known
      obtain ⟨-, writable, database, _, done, rfl⟩ := applyPending_cases applied
      obtain ⟨earlier, last, listed, latest⟩ := Migration.pending_before behind
      have reached : database.version = Int32.ofInt Migration.latest := by
        rw [← latest]
        exact Migration.apply_version (listed ▸ done)
      refine ⟨⟨?_, ⟨found, version, Nat.le_of_lt behind, Migration.apply_gains done⟩, rfl, rfl, rfl, rfl, .inr writable⟩,
        readable⟩
      rw [reached]
      rfl
  exact ⟨brought.1, migrate_latest (brought.1.version_eq brought.2)⟩

theorem migrate_unsupported {connection : Connection} {found supported : Nat} :
    connection.migrate.1 = .error (.unsupportedVersion found supported) ↔
      connection.requireReadable = .ok () ∧ connection.database.version.toInt = found ∧
        supported = Migration.latest ∧ Migration.latest < found := by
  constructor
  · intro refused
    rcases ran : connection.migrate with ⟨outcome, events, after⟩
    rw [ran] at refused
    cases refused
    obtain ⟨-, -, newer⟩ := migrate_cases ran
    obtain ⟨known, same, high⟩ := newer _ _ rfl
    obtain ⟨readable, version⟩ := version_eq_ok.mp known
    exact ⟨readable, version, same, high⟩
  · rintro ⟨readable, version, rfl, newer⟩
    simp only [migrate, version_eq_ok.mpr ⟨readable, version⟩, if_neg (Nat.ne_of_gt newer), if_pos newer]

/-- Migrations take effect as a whole and once, refuse what comes from a later version, and succeed where the database
is of the latest version already or all of the missing tables can be created. -/
structure Migrates (connection : Connection) : Prop where
  succeeded : ∀ events after, connection.migrate = (.ok (), events, after) →
    Brought connection after ∧ after.migrate = (.ok (), [], after)
  failed : ∀ error events after, connection.migrate = (.error error, events, after) →
    after.database = connection.database ∧ after.saved = connection.saved
  unsupported : ∀ found supported, connection.migrate.1 = .error (.unsupportedVersion found supported) ↔
    connection.requireReadable = .ok () ∧ connection.database.version.toInt = found ∧
      supported = Migration.latest ∧ Migration.latest < found
  current : connection.requireReadable = .ok () → connection.database.version.toInt = Migration.latest →
    connection.migrate = (.ok (), [], connection)
  reached : ∀ found : Nat, connection.database.version.toInt = found → found < Migration.latest →
    connection.autocommit = true → connection.file = .writable → connection.pending ≤ 0 →
    (∀ name ∈ (Migration.pending found).flatMap Migration.Step.names, connection.database.item? name = none) →
    ∃ events after, connection.migrate = (.ok (), events, after)

theorem migrates (connection : Connection) : connection.Migrates where
  succeeded _ _ ran := migrate_ok ran
  failed _ _ _ ran := ⟨(migrate_cases ran).1, (migrate_cases ran).2.1⟩
  unsupported _ _ := migrate_unsupported
  current readable version := migrate_latest (version_eq_ok.mpr ⟨readable, version⟩)
  reached found version behind idle file complete untaken := by
    have readable : connection.requireReadable = .ok () := by
      unfold requireReadable
      rw [file]
    have applies := applyPending_free idle file complete untaken
    simp only [migrate, version_eq_ok.mpr ⟨readable, version⟩]
    rw [if_neg (Nat.ne_of_lt behind), if_neg (Nat.lt_asymm behind)]
    exact applies

end Engine.Connection
end EntityStore
