import EntityStore.Proofs.Engine.Running
import EntityStore.Proofs.Engine.Wording
import EntityStore.Proofs.Migrating
import EntityStore.Proofs.Scouts.Tables
import EntityStore.Session

/-! What a database must have before statements of an entity are made for it. The tables and columns that are asked for
are those that the statements name, they are asked for in one order, and the first that is not there is reported. Nothing
is changed on the way. -/

namespace EntityStore
open Engine (Database Connection Table)

/-- A table, or a column of a table. -/
inductive Need where
  | table (name : String)
  | column (owner name : String)
  deriving DecidableEq

namespace Engine.Database

def named? (database : Database) (name : String) : Option Table := database.tables.find? (·.name == name)

/-- No two tables or views are under one name. -/
def Apart (database : Database) : Prop := database.items.Pairwise fun item other => sameName item.name other.name = false

end Engine.Database

namespace Need

def ofTable (name : String) (columns : List String) : List Need := .table name :: columns.map (.column name)

def error : Need → DbError
  | .table name => .missingTable name
  | .column owner name => .missingColumn owner name

def Met (database : Database) : Need → Prop
  | .table name => (database.named? name).isSome
  | .column owner name => ∃ found ∈ database.named? owner, ∃ column ∈ found.columns, column.name = name

instance (database : Database) : (need : Need) → Decidable (need.Met database)
  | .table name => inferInstanceAs (Decidable ((database.named? name).isSome = true))
  | .column owner name =>
      inferInstanceAs (Decidable (∃ found ∈ database.named? owner, ∃ column ∈ found.columns, column.name = name))

def reason (database : Database) (need : Need) : Option DbError := if need.Met database then none else some need.error

theorem reason_eq_none {database : Database} {need : Need} : need.reason database = none ↔ need.Met database := by
  unfold reason
  split <;> simp [*]

theorem reason_eq_some {database : Database} {need : Need} {error : DbError} :
    need.reason database = some error ↔ ¬ need.Met database ∧ error = need.error := by
  unfold reason
  split <;> simp [*, eq_comm]

end Need

/-- The parent table, the id, the columns in order, and then the table of each collection with its three columns. -/
def Schema.needs (schema : Schema) : List Need :=
  Need.ofTable schema.table schema.columnNames ++
    schema.collections.flatMap fun collection => Need.ofTable collection.table Collection.columnNames

/-! ### The first that is missing -/

namespace Engine.Database
variable {database : Database}

theorem refusal_requireTable (shown : database.item? columnList = none) (table : String) (columns : List String) :
    refusal (database.requireTable table columns) = (Need.ofTable table columns).findSome? (Need.reason database) := by
  unfold requireTable Need.ofTable
  rw [List.findSome?_cons]
  cases found : database.tables.find? (·.name == table) with
  | none =>
    have missing : (Need.table table).reason database = some (.missingTable table) :=
      Need.reason_eq_some.mpr ⟨by simp [Need.Met, named?, found], rfl⟩
    rw [missing]
    rfl
  | some known =>
    have there : (Need.table table).reason database = none := Need.reason_eq_none.mpr (by simp [Need.Met, named?, found])
    have has (column : String) :
        (Need.column table column).Met database ↔ known.columns.any (·.name == column) = true := by
      simp [Need.Met, named?, found]
    rw [there, shown]
    dsimp only
    rw [if_neg (by simp)]
    induction columns with
    | nil => rfl
    | cons column rest ih =>
      rw [List.find?_cons, List.map_cons, List.findSome?_cons]
      cases here : known.columns.any (·.name == column) with
      | true =>
        rw [Need.reason_eq_none.mpr ((has column).mpr here)]
        exact ih
      | false =>
        have missing : (Need.column table column).reason database = some (.missingColumn table column) :=
          Need.reason_eq_some.mpr ⟨fun met => by simp [(has column).mp met] at here, rfl⟩
        rw [missing]
        rfl

theorem refusal_requireSchema (shown : database.item? columnList = none) (schema : Schema) :
    refusal (database.requireSchema schema) = schema.needs.findSome? (Need.reason database) :=
  refusal_bind (refusal_requireTable shown _ _) fun _ =>
    refusal_forM schema.collections fun collection => refusal_requireTable shown collection.table Collection.columnNames

/-- Where something else has the name of what lists columns, the first table that is there ends the check. -/
theorem requireSchema_captured (captured : (database.item? columnList).isSome = true) (schema : Schema) :
    database.requireSchema schema =
      .error (if (Need.table schema.table).Met database then .engine (.notAFunction columnList)
        else .missingTable schema.table) := by
  unfold requireSchema requireTable
  cases found : database.tables.find? (·.name == schema.table) with
  | none =>
    rw [if_neg (by simp [Need.Met, named?, found])]
    rfl
  | some table =>
    rw [if_pos (by simp [Need.Met, named?, found])]
    simp only [captured, if_true]
    rfl

/-- All that is needed is there, or the first that is not is reported. -/
structure Reports (database : Database) (schema : Schema) : Prop where
  passes : database.requireSchema schema = .ok () ↔ ∀ need ∈ schema.needs, need.Met database
  refuses : ∀ error, database.requireSchema schema = .error error ↔
    ∃ before need after, schema.needs = before ++ need :: after ∧ (¬ need.Met database ∧ error = need.error) ∧
      ∀ earlier ∈ before, earlier.Met database

theorem reports_of_refusal {schema : Schema}
    (same : refusal (database.requireSchema schema) = schema.needs.findSome? (Need.reason database)) :
    database.Reports schema where
  passes := by
    rw [← refusal_eq_none_unit, same, List.findSome?_eq_none_iff]
    simp only [Need.reason_eq_none]
  refuses error := by
    rw [← refusal_eq_some, same, List.findSome?_eq_some_iff]
    simp only [Need.reason_eq_some, Need.reason_eq_none]

/-- What the check of the tables tells. -/
structure Checked (database : Database) (schema : Schema) : Prop where
  reports : database.Reports schema ↔ database.item? columnList = none ∨ ¬ (Need.table schema.table).Met database
  captured : (database.item? columnList).isSome = true → (Need.table schema.table).Met database →
    database.requireSchema schema = .error (.engine (.notAFunction columnList))

theorem reports_iff (database : Database) (schema : Schema) :
    database.Reports schema ↔ database.item? columnList = none ∨ ¬ (Need.table schema.table).Met database := by
  cases shown : database.item? columnList with
  | none => exact iff_of_true (reports_of_refusal (refusal_requireSchema shown schema)) (.inl rfl)
  | some item =>
    have answered := requireSchema_captured (by rw [shown]; rfl) schema
    by_cases there : (Need.table schema.table).Met database
    · -- No need is reported as an error of the engine.
      rw [if_pos there] at answered
      refine iff_of_false (fun reports => ?_) (by simp [there])
      obtain ⟨before, need, after, -, ⟨-, same⟩, -⟩ := (reports.refuses _).mp answered
      cases need <;> cases same
    · have first : (Need.table schema.table).reason database = some (.missingTable schema.table) :=
        Need.reason_eq_some.mpr ⟨there, rfl⟩
      rw [if_neg there] at answered
      refine iff_of_true (reports_of_refusal ?_) (.inr there)
      rw [answered, Schema.needs, Need.ofTable, List.cons_append, List.findSome?_cons, first]
      rfl

theorem checked (database : Database) (schema : Schema) : database.Checked schema where
  reports := reports_iff database schema
  captured hidden there := by rw [requireSchema_captured hidden, if_pos there]

theorem met_of_requireSchema {schema : Schema} (passed : database.requireSchema schema = .ok ()) :
    ∀ need ∈ schema.needs, need.Met database := by
  cases shown : database.item? columnList with
  | none => exact ((reports_iff database schema).mpr (.inl shown)).passes.mp passed
  | some item =>
    rw [requireSchema_captured (by rw [shown]; rfl)] at passed
    cases passed

end Engine.Database

/-! ### The version, and then the tables -/

namespace Engine.Connection
variable {connection : Connection} {schema : Schema}

theorem requireTables_readable (readable : connection.file.isReadable = true) : connection.requireTables = .ok () := by
  unfold requireTables requireReadable
  cases file : connection.file <;> simp_all [FileAccess.isReadable]

theorem requireReadable_readable (readable : connection.file.isReadable = true) :
    connection.requireReadable = .ok () := by
  unfold requireReadable
  cases file : connection.file <;> simp_all [FileAccess.isReadable]

theorem isReadable_of_ok (tables : connection.requireTables = .ok ()) (readable : connection.requireReadable = .ok ()) :
    connection.file.isReadable = true := by
  unfold requireTables at tables
  unfold requireReadable at readable
  cases file : connection.file <;> simp_all [FileAccess.isReadable]

theorem requireSchema_readable (readable : connection.file.isReadable = true) (schema : Schema) :
    connection.requireSchema schema = connection.database.requireSchema schema := by
  simp only [requireSchema, requireTables_readable readable, requireReadable_readable readable]

theorem requireSchema_eq_ok :
    connection.requireSchema schema = .ok () ↔
      connection.file.isReadable = true ∧ connection.database.requireSchema schema = .ok () := by
  constructor
  · intro passed
    have readable : connection.file.isReadable = true := by
      unfold requireSchema at passed
      split at passed
      · cases passed
      · cases passed
      · exact isReadable_of_ok ‹_› ‹_›
    exact ⟨readable, requireSchema_readable readable schema ▸ passed⟩
  · rintro ⟨readable, passed⟩
    rw [requireSchema_readable readable, passed]

theorem requireLatest_eq_ok : connection.requireLatest = .ok () ↔ connection.version = .ok Migration.latest := by
  unfold requireLatest
  rw [bind_eq_ok]
  constructor
  · rintro ⟨found, known, passed⟩
    split at passed
    · rename_i latest
      rw [known, latest]
    · cases passed
  · exact fun known => ⟨Migration.latest, known, if_pos rfl⟩

/-- What the check of a connection tells. -/
structure Checked (connection : Connection) (schema : Schema) : Prop where
  passes : connection.requireReady schema = .ok () ↔
    connection.database.version.toInt = Migration.latest ∧ connection.requireSchema schema = .ok ()
  tables : connection.requireSchema schema = .ok () ↔
    connection.file.isReadable = true ∧ connection.database.requireSchema schema = .ok ()
  /-- Whatever tables there are, another version than the latest is reported first. -/
  versionFirst : connection.file.isReadable = true → connection.database.version.toInt ≠ Migration.latest →
    connection.requireReady schema =
      .error (if 0 ≤ connection.database.version.toInt then
        .uninitialized Migration.latest connection.database.version.toInt.toNat
      else .engine (.integerOutOfRange connection.database.version.toInt 0))
  tablesNext : connection.file.isReadable = true → connection.database.version.toInt = Migration.latest →
    connection.requireReady schema = connection.database.requireSchema schema

theorem requireReady_eq_ok :
    connection.requireReady schema = .ok () ↔
      connection.database.version.toInt = Migration.latest ∧ connection.requireSchema schema = .ok () := by
  have readable (passed : connection.requireSchema schema = .ok ()) : connection.requireReadable = .ok () :=
    requireReadable_readable (requireSchema_eq_ok.mp passed).1
  unfold requireReady
  rw [bind_eq_ok]
  constructor
  · rintro ⟨⟨⟩, latest, passed⟩
    exact ⟨(version_eq_ok.mp (requireLatest_eq_ok.mp latest)).2, passed⟩
  · rintro ⟨latest, passed⟩
    exact ⟨(), requireLatest_eq_ok.mpr (version_eq_ok.mpr ⟨readable passed, latest⟩), passed⟩

theorem requireReady_outdated (readable : connection.file.isReadable = true)
    (outdated : connection.database.version.toInt ≠ Migration.latest) (schema : Schema) :
    connection.requireReady schema =
      .error (if 0 ≤ connection.database.version.toInt then
        .uninitialized Migration.latest connection.database.version.toInt.toNat
      else .engine (.integerOutOfRange connection.database.version.toInt 0)) := by
  simp only [requireReady, requireLatest, version, requireReadable_readable readable]
  by_cases counted : 0 ≤ connection.database.version.toInt
  · have other : connection.database.version.toInt.toNat ≠ Migration.latest := by omega
    rw [if_pos counted, if_pos counted]
    simp only [bind, Except.bind, if_neg other]
  · rw [if_neg counted, if_neg counted]
    rfl

theorem requireReady_latest (readable : connection.file.isReadable = true)
    (latest : connection.database.version.toInt = Migration.latest) (schema : Schema) :
    connection.requireReady schema = connection.database.requireSchema schema := by
  have known := requireLatest_eq_ok.mpr (version_eq_ok.mpr ⟨requireReadable_readable readable, latest⟩)
  rw [requireReady, known, ← requireSchema_readable readable]
  rfl

theorem checked (connection : Connection) (schema : Schema) : connection.Checked schema where
  passes := requireReady_eq_ok
  tables := requireSchema_eq_ok
  versionFirst readable outdated := requireReady_outdated readable outdated schema
  tablesNext readable latest := requireReady_latest readable latest schema

end Engine.Connection

/-! ### The statements of an entity -/

def Statement.columnNames : Statement → List String
  | .insert _ columns | .insertRows _ columns _ => columns
  | .select _ columns key order => key :: (columns ++ order.toList)
  | .update _ columns key => key :: columns
  | .probe _ key | .delete _ key => [key]

/-- A statement names its table and its columns, and nothing else. -/
theorem StatementName.statement_cases {schema : Schema} {name : StatementName} {statement : Statement}
    (known : name.statement schema = .ok statement) :
    statement.table = schema.table ∧ statement.columnNames ⊆ schema.columnNames ∨
      ∃ collection ∈ schema.collections,
        statement.table = collection.table ∧ statement.columnNames ⊆ Collection.columnNames := by
  have key : [schema.idColumn] ⊆ schema.columnNames := by simp [Schema.columnNames]
  have chosen {index : Nat} {use : Collection → Except ContractError Statement}
      (known : StatementName.withCollection schema index use = .ok statement) :
      ∃ collection ∈ schema.collections, use collection = .ok statement := by
    unfold StatementName.withCollection at known
    split at known
    · exact ⟨_, List.mem_of_getElem? ‹_›, known⟩
    · cases known
  cases name with
  | insert =>
    cases known
    exact .inl ⟨rfl, List.Subset.refl _⟩
  | select =>
    cases known
    exact .inl ⟨rfl, by simp [Schema.select, Statement.columnNames, Schema.columnNames]⟩
  | probe =>
    cases known
    exact .inl ⟨rfl, key⟩
  | update =>
    cases found : schema.update? with
    | none => simp [StatementName.statement, found] at known
    | some update =>
      simp only [StatementName.statement, found, Except.ok.injEq] at known
      subst known
      unfold Schema.update? at found
      split at found
      · cases found
      · cases found
        exact .inl ⟨rfl, List.Subset.refl _⟩
  | delete =>
    cases known
    exact .inl ⟨rfl, key⟩
  | collectionInsert index count =>
    obtain ⟨collection, member, known⟩ := chosen known
    cases count with
    | zero => cases known
    | succ more =>
      cases known
      exact .inr ⟨collection, member, rfl, List.Subset.refl _⟩
  | collectionSelect index =>
    obtain ⟨collection, member, known⟩ := chosen known
    cases known
    exact .inr ⟨collection, member, rfl, by simp [Collection.select, Statement.columnNames, Collection.columnNames]⟩
  | collectionDelete index =>
    obtain ⟨collection, member, known⟩ := chosen known
    cases known
    exact .inr ⟨collection, member, rfl, by simp [Collection.delete, Statement.columnNames, Collection.columnNames]⟩

/-- Whatever a statement names is asked for. -/
theorem StatementName.needs_subset {schema : Schema} {name : StatementName} {statement : Statement}
    (known : name.statement schema = .ok statement) :
    Need.ofTable statement.table statement.columnNames ⊆ schema.needs := by
  have narrowed {table : String} {columns : List String} (same : statement.table = table)
      (among : statement.columnNames ⊆ columns) :
      Need.ofTable statement.table statement.columnNames ⊆ Need.ofTable table columns := by
    rw [same]
    exact List.cons_subset_cons _ (List.map_subset _ among)
  rcases StatementName.statement_cases known with ⟨same, among⟩ | ⟨collection, member, same, among⟩
  · exact List.Subset.trans (narrowed same among) (List.subset_append_left _ _)
  · refine List.Subset.trans (narrowed same among) (List.Subset.trans ?_ (List.subset_append_right _ _))
    exact fun need inside => List.mem_flatMap.mpr ⟨collection, member, inside⟩

namespace Engine.Database
variable {database : Database} {table : Table}

theorem named?_eq_some {name : String} (found : database.named? name = some table) :
    .table table ∈ database.items ∧ table.name = name := by
  refine ⟨?_, by simpa using List.find?_some found⟩
  obtain ⟨item, member, same⟩ := List.mem_filterMap.mp (List.mem_of_find?_eq_some found)
  cases item with
  | table known =>
    cases same
    exact member
  | view view => cases same

/-- Where names are apart, the table of exactly some name is what the engine finds under the name. -/
theorem Apart.item?_eq (apart : database.Apart) {name : String} (found : database.named? name = some table) :
    database.item? name = some (.table table) := by
  obtain ⟨member, rfl⟩ := named?_eq_some found
  obtain ⟨before, after, split⟩ := List.append_of_mem member
  refine List.find?_eq_some_iff_append.mpr ⟨by simp [sameName, Item.name], before, after, split, fun other earlier => ?_⟩
  rw [Apart, split, List.pairwise_append] at apart
  have distinct : sameName other.name table.name = false := apart.2.2 other earlier _ List.mem_cons_self
  rw [distinct]
  rfl

theorem place?_isSome {name : String} (has : ∃ column ∈ table.columns, column.name = name) :
    (table.place? name).isSome = true := by
  obtain ⟨column, member, rfl⟩ := has
  have found : (table.columnIndex? column.name).isSome = true := by
    rw [Relation.columnIndex?, List.findIdx?_isSome]
    exact List.any_eq_true.mpr ⟨column, member, by simp [sameName]⟩
  obtain ⟨index, found⟩ := Option.isSome_iff_exists.mp found
  rw [Relation.place?, found]
  dsimp only
  split <;> rfl

theorem writable_eq {name : String} (found : database.item? name = some (.table table)) :
    database.writable name = .ok table := by
  simp only [writable, tableOr, found]

theorem source_eq {name : String} (found : database.item? name = some (.table table))
    (condition : Option (String × Value)) : database.source name condition = .ok table.toRelation := by
  simp only [source, found]

theorem target_found {statement : Statement} (found : database.item? statement.table = some (.table table))
    (places : ∀ column ∈ statement.columnNames, (table.place? column).isSome = true) (parameters : List Value) :
    ∃ target, database.target false statement parameters = .ok target ∧ target.relation = table.toRelation := by
  cases statement with
  | insert name columns =>
    have writable : database.writable name = .ok table := writable_eq found
    have placed (error : String → EngineError) : requirePlaces table error columns = .ok () := requirePlaces_ok places
    refine ⟨.writes table, ?_, rfl⟩
    simp only [target, writable, placed, bind, Except.bind]
    rfl
  | insertRows name columns more =>
    have writable : database.writable name = .ok table := writable_eq found
    have placed (error : String → EngineError) : requirePlaces table error columns = .ok () := requirePlaces_ok places
    refine ⟨.writes table, ?_, rfl⟩
    cases more
    all_goals
      simp only [target, writable, placed, bind, Except.bind]
      rfl
  | update name columns key =>
    have writable : database.writable name = .ok table := writable_eq found
    have placed (error : String → EngineError) : requirePlaces table error columns = .ok () :=
      requirePlaces_ok fun column member => places column (List.mem_cons_of_mem _ member)
    refine ⟨.writes table, ?_, rfl⟩
    simp only [target, writable, placed, bind, Except.bind]
    rfl
  | delete name key =>
    have writable : database.writable name = .ok table := writable_eq found
    refine ⟨.writes table, ?_, rfl⟩
    simp only [target, writable, bind, Except.bind]
    rfl
  | select name columns key order | probe name key =>
    have source (condition : Option (String × Value)) : database.source name condition = .ok table.toRelation :=
      source_eq found condition
    refine ⟨.reads table.toRelation, ?_, rfl⟩
    simp only [target, source]
    rfl

/-- What the statements of an entity find. -/
structure Carries (database : Database) (schema : Schema) : Prop where
  named : ∀ (name : StatementName) (statement : Statement), name.statement schema = .ok statement →
    ∃ table, database.named? statement.table = some table ∧
      ∀ column ∈ statement.columnNames, ∃ stored ∈ table.columns, stored.name = column
  found : database.Apart → ∀ (name : StatementName) (statement : Statement), name.statement schema = .ok statement →
    ∀ parameters, ∃ table, database.item? statement.table = some (.table table) ∧
      (∀ column ∈ statement.columnNames, (table.place? column).isSome = true) ∧
      ∃ target, database.target false statement parameters = .ok target ∧ target.relation = table.toRelation

theorem carries {schema : Schema} (met : ∀ need ∈ schema.needs, need.Met database) : database.Carries schema := by
  have named (name : StatementName) (statement : Statement) (known : name.statement schema = .ok statement) :
      ∃ table, database.named? statement.table = some table ∧
        ∀ column ∈ statement.columnNames, ∃ stored ∈ table.columns, stored.name = column := by
    have asked := StatementName.needs_subset known
    obtain ⟨table, found⟩ := Option.isSome_iff_exists.mp (met _ (asked List.mem_cons_self))
    refine ⟨table, found, fun column member => ?_⟩
    obtain ⟨other, same, has⟩ := met _ (asked (List.mem_cons_of_mem _ (List.mem_map_of_mem member)))
    rw [found] at same
    cases same
    exact has
  refine ⟨named, fun apart name statement known parameters => ?_⟩
  obtain ⟨table, only, columns⟩ := named name statement known
  have places (column : String) (member : column ∈ statement.columnNames) := place?_isSome (columns column member)
  exact ⟨table, apart.item?_eq only, places, target_found (apart.item?_eq only) places parameters⟩

end Engine.Database

/-! ### Mappers -/

namespace Engine.Connection
variable {connection : Connection}

theorem requireReady_statementEnd (schema : Schema) :
    connection.statementEnd.requireReady schema = connection.requireReady schema := by
  unfold statementEnd
  split <;> rfl

theorem committed_statementEnd : connection.statementEnd.committed = connection.committed := by
  unfold statementEnd
  split <;> rfl

end Engine.Connection

namespace Session

theorem sync_connection (session : Session) : session.sync.connection = session.connection := by
  unfold sync
  split
  · split <;> rfl
  · rfl

theorem sync_directory {session : Session} {connection next : Connection} (connected : session.connection = some connection)
    (same : next.committed = connection.committed) :
    { session with connection := some next }.sync.directory = session.sync.directory := by
  unfold sync
  rw [connected]
  cases session.home with
  | none => rfl
  | some name =>
    dsimp only
    rw [same]
    split <;> rfl

/-- A mapper is made for a schema where the connection is ready for it, and nothing is changed for that. A statement that
reads ends what was deferred outside a transaction, and tables that were looked at are known. -/
def MakesMapper (session : Session) (schema : Schema) : Prop :=
  ∀ connection, session.refresh.connection = some connection →
    ∃ after known,
      session.step (.mapper schema) = .ok (readyOr (.statements schema) (connection.requireReady schema), [], after) ∧
      after.connection = some { connection.statementEnd with knowsTables := known } ∧
      after.directory = session.refresh.sync.directory

theorem makesMapper (session : Session) (schema : Schema) : session.MakesMapper schema := by
  intro connection connected
  have stepped : session.step (.mapper schema) = session.refresh.stepOn (.mapper schema) := rfl
  have started : readsFirst (.mapper schema) = true := rfl
  have answered : onConnection connection.statementEnd (.mapper schema) =
      .ok (readyOr (.statements schema) (connection.requireReady schema), [], connection.statementEnd) := by
    rw [onConnection, Connection.requireReady_statementEnd]
  rw [stepped, stepOn, connected]
  dsimp only
  rw [if_pos started, answered]
  exact ⟨_, _, rfl, sync_connection _, sync_directory connected Connection.committed_statementEnd⟩

end Session

theorem Contents.apart (contents : Contents) : contents.database.Apart := by
  have distinct : ScoutTable.all.Pairwise (· ≠ ·) := by decide
  exact List.pairwise_map.mpr (distinct.imp fun {t u} other => (ScoutTable.sameName_name t u).trans (decide_eq_false other))

/-- The check of a connection looks at the version and then for what an entity needs, and reports the first that is not
there, unless the parent table is there and something has the name of what lists columns. It changes nothing, and where it
passes, the statements of the entity find what they name. -/
theorem requireReady_meetsNeeds (session : Session) (connection : Connection) (schema : Schema) :
    connection.database.Checked schema ∧ connection.Checked schema ∧ session.MakesMapper schema ∧
      (connection.requireReady schema = .ok () → connection.database.Carries schema) := by
  refine ⟨Database.checked _ _, Connection.checked _ _, session.makesMapper schema, fun passed => ?_⟩
  obtain ⟨-, tables⟩ := Connection.requireReady_eq_ok.mp passed
  exact Database.carries (Database.met_of_requireSchema (Connection.requireSchema_eq_ok.mp tables).2)

/-- What boy scouts need is in the migrated database. Without one of the tables it is reported, and before that a version
that is not the latest. -/
theorem requireReady_meetsNeeds_boyScout :
    let database := Contents.database fun _ => []
    let connection := Connection.ofDatabase database
    let without : Database := { database with items := database.items.eraseIdx 4 }
    let session : Session := ⟨some connection, none, .empty⟩
    connection.requireReady BoyScout.schema = .ok () ∧
      without.requireSchema BoyScout.schema = .error (.missingTable "boy_scout_mask") ∧
      (Connection.ofDatabase .empty).requireReady BoyScout.schema = .error (.uninitialized 1 0) ∧
      (∃ after known, session.step (.mapper BoyScout.schema) = .ok (.statements BoyScout.schema, [], after) ∧
        after.connection = some { connection with knowsTables := known }) ∧
      ∃ table, database.item? "boy_scout_badges" = some (.table table) ∧
        ∀ column ∈ ["id", "ordinality", "value"], (table.place? column).isSome = true := by
  intro database connection without session
  obtain ⟨tables, ready, makes, carries⟩ := requireReady_meetsNeeds session connection BoyScout.schema
  obtain ⟨few, -⟩ := requireReady_meetsNeeds session (.ofDatabase without) BoyScout.schema
  obtain ⟨-, early, -⟩ := requireReady_meetsNeeds session (.ofDatabase .empty) BoyScout.schema
  have met : ∀ need ∈ BoyScout.schema.needs, need.Met database := by decide +kernel
  have reports : database.Reports BoyScout.schema := tables.reports.mpr (.inl (by decide +kernel))
  have passed : connection.requireReady BoyScout.schema = .ok () :=
    ready.passes.mpr ⟨rfl, ready.tables.mpr ⟨rfl, reports.passes.mpr met⟩⟩
  refine ⟨passed, ?_, early.versionFirst rfl (by decide), ?_, ?_⟩
  · have reports : without.Reports BoyScout.schema := few.reports.mpr (.inl (by decide +kernel))
    refine (reports.refuses _).mpr
      ⟨BoyScout.schema.needs.take 25, .table "boy_scout_mask", BoyScout.schema.needs.drop 26, rfl, ⟨?_, rfl⟩, ?_⟩
    · decide +kernel
    · decide +kernel
  · obtain ⟨after, known, stepped, kept, -⟩ := makes connection rfl
    rw [passed] at stepped
    exact ⟨after, known, stepped, kept⟩
  · obtain ⟨table, found, places, -⟩ :=
      (carries passed).found (Contents.apart fun _ => []) (.collectionInsert 0 1) _ rfl []
    exact ⟨table, found, places⟩

/-- A table under the name of what lists columns gets in the way, although all that boy scouts need is there. -/
theorem requireReady_captured :
    let renamed : Database :=
      { Contents.database fun _ => [] with
        items := ScoutTable.all.map fun t =>
          .table { t.blank with name := if t = .girlScout then Database.columnList else t.name } }
    (Contents.database fun _ => []).renameTable "girl_scout" Database.columnList = .ok renamed ∧
      renamed.version.toInt = Migration.latest ∧ (∀ need ∈ BoyScout.schema.needs, need.Met renamed) ∧
      (Connection.ofDatabase renamed).requireReady BoyScout.schema =
        .error (.engine (.notAFunction Database.columnList)) := by
  intro renamed
  refine ⟨?_, rfl, ?_, ?_⟩
  · decide +kernel
  · decide +kernel
  · decide +kernel

end EntityStore
