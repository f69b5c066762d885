import EntityStore.Proofs.Engine.Changing
import EntityStore.Proofs.Engine.Laying
import EntityStore.Proofs.Engine.Running
import EntityStore.Proofs.Engine.Wording
import EntityStore.Proofs.Scouts.Tables

/-! Connections to migrated databases, seen as rows under tables. Statements of the mapper on such a connection find
their table and their columns, whatever the rows are. -/

namespace EntityStore
open Engine

namespace ScoutTable

def columnNames (t : ScoutTable) : List String := t.columns.map (·.name)

theorem lists (t : ScoutTable) : t.blank.Lists 0 t.columnNames := by
  unfold Relation.Lists
  cases t <;> decide +kernel

theorem zeroFree (t : ScoutTable) : ∀ name ∈ t.name :: t.columnNames, '\x00' ∉ name.toList := by
  cases t <;> decide +kernel

/-- The id comes first, and stays as it is given. -/
theorem columns_eq (t : ScoutTable) : t.columns = Migration.key "id" :: t.columns.tail := by cases t <;> rfl

theorem id_mem (t : ScoutTable) : "id" ∈ t.columnNames := by
  rw [columnNames, columns_eq]
  exact List.mem_cons_self

theorem place?_id (t : ScoutTable) : t.blank.place? "id" = some (.column 0) := by cases t <;> decide +kernel

theorem key_affinity : (Migration.key "id").affinity = .text := by decide +kernel

end ScoutTable

/-- Whether a row has an id. An empty id is stored as NULL and no row has it. -/
def hasId (id : String) (row : Row) : Bool := (cell row 0).same (Codec.encodeText id)

theorem hasId_iff {id : String} {row : Row} : hasId id row = true ↔ id ≠ "" ∧ cell row 0 = .text id := by
  unfold hasId Codec.encodeText
  by_cases empty : id = ""
  · subst empty
    simp
  · simp [empty]

theorem ne_of_stored {id : String} {rows : List Row} (stored : ∃ row ∈ rows, hasId id row = true) : id ≠ "" := by
  obtain ⟨row, -, has⟩ := stored
  exact (hasId_iff.mp has).1

theorem encodeText_of_ne {id : String} (present : id ≠ "") : Codec.encodeText id = .text id := by
  simp [Codec.encodeText, present]

theorem encodeText_parameter (text : String) : (Codec.encodeText text).parameter = Codec.encodeText text := by
  unfold Codec.encodeText
  split <;> rfl

/-- The rows of each table, in no particular order. -/
abbrev Rows := ScoutTable → List Row

/-- A connection to a migrated database that holds these rows. The database is exactly the tables of the migration, with
no other table and no view beside them. -/
structure Holds (connection : Connection) (rows : Rows) : Prop where
  steady : connection.Steady
  stored : ∃ contents : Contents, connection.database = contents.database ∧
    ∀ t, Stores t.columns t.key (contents t) (rows t)

/-- A database in memory, with any entries that its columns can hold. -/
theorem Contents.holds {contents : Contents} (sorted : ∀ t, Descending (contents t))
    (held : ∀ t, ∀ row ∈ (contents t).map (·.values), Fits t.columns row)
    (distinct : ∀ t : ScoutTable, t.key.Distinct ((contents t).map (·.values))) :
    Holds { Connection.ofDatabase contents.database with knowsTables := true } fun t => (contents t).map (·.values) :=
  ⟨⟨rfl, rfl, rfl, rfl⟩, contents, rfl, fun t => ⟨sorted t, .refl _, held t, distinct t⟩⟩

namespace Holds
variable {connection : Connection} {rows : Rows}

theorem fits (holds : Holds connection rows) {t : ScoutTable} : ∀ row ∈ rows t, Fits t.columns row := by
  obtain ⟨contents, -, stores⟩ := holds.stored
  exact (stores t).held

theorem distinct (holds : Holds connection rows) (t : ScoutTable) : t.key.Distinct (rows t) := by
  obtain ⟨contents, -, stores⟩ := holds.stored
  exact (stores t).distinct

theorem update (holds : Holds connection rows) {contents : Contents}
    (stores : ∀ t, Stores t.columns t.key (contents t) (rows t)) {t : ScoutTable} {entries : List Entry}
    {others : List Row} (stored : Stores t.columns t.key entries others) (changes : Nat) :
    Holds { connection with
      database := Contents.database (Function.update contents t entries), changes := changes }
      (Function.update rows t others) where
  steady := holds.steady.changed _ _ _
  stored := by
    refine ⟨_, rfl, fun u => ?_⟩
    by_cases same : u = t
    · subst same
      simpa using stored
    · simpa [Function.update_of_ne same] using stores u

theorem execute_eq (holds : Holds connection rows) {t : ScoutTable} {statement : Statement} {parameters : List Value}
    (worded : requireText statement.text statement.arity = .ok ())
    (found : ∀ contents : Contents,
      contents.database.target true statement parameters = .ok (.writes (contents.table t)))
    (plain : ∀ value ∈ parameters, value.parameter = value) (counted : parameters.length = statement.arity) :
    ∃ contents : Contents, (∀ u, Stores u.columns u.key (contents u) (rows u)) ∧
      connection.execute statement parameters =
        match Database.write (contents.table t) (contents.database.references (contents.table t)) 0 statement
          parameters with
        | .error error => (.error error, { connection with changes := 0 })
        | .ok progress =>
            if 0 < progress.violations then (.error .foreignKey, { connection with changes := 0 })
            else (.ok progress.changed, { connection with
              database := Contents.database (Function.update contents t progress.entries),
              changes := progress.changed }) := by
  obtain ⟨contents, same, stores⟩ := holds.stored
  have plain : parameters.map Value.parameter = parameters := (List.map_congr_left plain).trans (List.map_id' _)
  have intact : (contents.table t).intact = true := by cases t <;> rfl
  have ran := Connection.execute_eq holds.steady worded (by rw [same, plain]; exact found contents) counted intact
  have set : ∀ entries, contents.database.setEntries (contents.table t).name entries =
      Contents.database (Function.update contents t entries) := contents.setEntries_name t
  refine ⟨contents, stores, ran.trans ?_⟩
  rw [plain, same]
  cases Database.write (contents.table t) (contents.database.references (contents.table t)) 0 statement parameters with
  | error error => rfl
  | ok progress =>
    dsimp only
    rw [set]

end Holds

namespace ScoutTable
variable {contents : Contents} {t : ScoutTable} {parameters : List Value}

theorem requirePlaces_ok {error : String → EngineError} {names : List String} (known : names ⊆ t.columnNames) :
    Database.requirePlaces (contents.table t) error names = .ok () := by
  refine Database.requirePlaces_ok fun name member => ?_
  obtain ⟨index, -, same⟩ := t.lists.places name (known member)
  have place : (contents.table t).place? name = some (.column index) := same
  rw [place]
  rfl

theorem target_insert :
    contents.database.target true (.insert t.name t.columnNames) parameters = .ok (.writes (contents.table t)) := by
  simp only [Database.target, contents.writable_name, requirePlaces_ok (List.Subset.refl t.columnNames),
    contents.requireParents_ok, bind, Except.bind, pure, Except.pure, if_true]

theorem target_insertRows (more : Nat) :
    contents.database.target true (.insertRows t.name t.columnNames more) parameters =
      .ok (.writes (contents.table t)) := by
  cases more <;>
    simp only [Database.target, contents.writable_name, requirePlaces_ok (List.Subset.refl t.columnNames),
      contents.requireParents_ok, contents.requireReferences_ok, bind, Except.bind, pure, Except.pure, if_true]

theorem target_update {names : List String} (known : names ⊆ t.columnNames) :
    contents.database.target true (.update t.name names "id") parameters = .ok (.writes (contents.table t)) := by
  simp only [Database.target, contents.writable_name, requirePlaces_ok known, contents.requireReferences_ok, bind,
    Except.bind, pure, Except.pure, if_true]

theorem target_delete :
    contents.database.target true (.delete t.name "id") parameters = .ok (.writes (contents.table t)) := by
  simp only [Database.target, contents.writable_name, contents.requireReferences_ok, bind, Except.bind, pure,
    Except.pure, if_true]

theorem target_select (names : List String) (order : Option String) :
    contents.database.target true (.select t.name names "id" order) parameters =
      .ok (.reads (contents.table t).toRelation) := by
  simp only [Database.target, contents.source_name]
  rfl

theorem target_probe :
    contents.database.target true (.probe t.name "id") parameters = .ok (.reads (contents.table t).toRelation) := by
  simp only [Database.target, contents.source_name]
  rfl

theorem equals_id (id : String) (entry : Entry) :
    (Operand.ofName (contents.table t).toRelation "id").equals (contents.table t).toRelation (Codec.encodeText id) entry =
      hasId id entry.values := by
  have place : (contents.table t).place? "id" = some (.column 0) := t.place?_id
  have columns : (contents.table t).columns = Migration.key "id" :: t.columns.tail := t.columns_eq
  have affinity : (contents.table t).affinity (.column 0) = .text := by
    simp only [Relation.affinity, columns, List.getElem?_cons_zero, Option.map_some, Option.getD_some, key_affinity]
  have kept : Affinity.text.apply (Codec.encodeText id) = Codec.encodeText id := by
    unfold Codec.encodeText
    split <;> rfl
  simp only [Operand.ofName, place, Operand.equals, affinity, kept]
  rfl

end ScoutTable
end EntityStore
