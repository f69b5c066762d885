import EntityStore.Engine.Connection
import EntityStore.Proofs.Refusal

/-! Statements on a connection that judges each of them as it ends: what is left of running a statement once its text,
its target and the number of its parameters are known to be right. -/

namespace EntityStore.Engine

theorem Database.requirePlaces_ok {table : Table} {error : String → EngineError} {names : List String}
    (known : ∀ name ∈ names, (table.place? name).isSome = true) : requirePlaces table error names = .ok () := by
  unfold requirePlaces
  rw [List.forM_eq_forM]
  induction names with
  | nil => rfl
  | cons name rest ih =>
    rw [List.forM_cons, if_pos (known name List.mem_cons_self)]
    exact ih fun other member => known other (List.mem_cons_of_mem _ member)

namespace Connection

/-- The file can be written, parents are enforced, and nothing waits for a commit. -/
structure Steady (connection : Connection) : Prop where
  file : connection.file = .writable
  enforced : connection.foreignKeys = true
  prompt : connection.deferring = false
  whole : connection.pending = 0

variable {connection : Connection} {statement : Statement} {parameters : List Value} {table : Table} {target : Target}

theorem Steady.changed (steady : connection.Steady) (database : Database) (saved : Option Database) (changes : Nat) :
    Steady { connection with database := database, saved := saved, changes := changes } :=
  ⟨steady.file, steady.enforced, steady.prompt, steady.whole⟩

theorem Steady.ended (steady : connection.Steady) (database : Database) (saved : Option Database) (changes : Nat) :
    Steady { connection with
      database := database, saved := saved, deferring := false, pending := 0, changes := changes } :=
  ⟨steady.file, steady.enforced, rfl, rfl⟩

theorem prepare_target {text : String} (prepared : connection.prepare text statement parameters = .ok target) :
    connection.database.target connection.foreignKeys statement parameters = .ok target := by
  unfold prepare at prepared
  obtain ⟨_, -, prepared⟩ := bind_eq_ok.mp prepared
  obtain ⟨_, -, prepared⟩ := bind_eq_ok.mp prepared
  obtain ⟨known, found, prepared⟩ := bind_eq_ok.mp prepared
  obtain ⟨_, -, prepared⟩ := bind_eq_ok.mp prepared
  obtain ⟨_, -, prepared⟩ := bind_eq_ok.mp prepared
  obtain ⟨_, -, prepared⟩ := bind_eq_ok.mp prepared
  cases prepared
  exact found

theorem Steady.statementEnd (steady : connection.Steady) : connection.statementEnd = connection := by
  unfold Connection.statementEnd
  split
  · rw [← steady.prompt, ← steady.whole]
  · rfl

theorem Steady.requireReadable (steady : connection.Steady) : connection.requireReadable = .ok () := by
  simp only [Connection.requireReadable, steady.file]

theorem Steady.requireTables (steady : connection.Steady) : connection.requireTables = .ok () := by
  simp only [Connection.requireTables, steady.file, steady.requireReadable]
  split <;> rfl

theorem Steady.requireWritable (steady : connection.Steady) : connection.requireWritable = .ok () := by
  simp only [Connection.requireWritable, steady.file, steady.requireReadable]
  rfl

theorem prepare_eq (steady : connection.Steady) {bound : List Value}
    (worded : requireText statement.text statement.arity = .ok ())
    (found : connection.database.target true statement bound = .ok target) (counted : bound.length = statement.arity)
    (intact : target.relation.intact = true) :
    connection.prepare statement.text statement bound = .ok target := by
  have arity : Database.requireArity statement bound = .ok () := if_pos counted
  have whole : target.relation.requireIntact = .ok () := if_pos intact
  simp only [prepare, worded, steady.requireTables, steady.enforced, found, arity, steady.requireReadable, whole, bind,
    Except.bind, pure, Except.pure]

theorem settle_eq (steady : connection.Steady) (table : Table) (progress : Progress) :
    connection.settle table progress =
      if 0 < progress.violations then (.error .foreignKey, { connection with changes := 0 })
      else (.ok progress.changed, { connection with
        database := connection.database.setEntries table.name progress.entries, changes := progress.changed }) := by
  simp only [settle, steady.prompt, Bool.false_and, Bool.false_eq_true, if_false, statementFailed, steady.statementEnd]

/-- A statement that writes fails as its change of the table does, or for want of a parent. -/
theorem execute_eq (steady : connection.Steady) (worded : requireText statement.text statement.arity = .ok ())
    (found : connection.database.target true statement (parameters.map Value.parameter) = .ok (.writes table))
    (counted : parameters.length = statement.arity) (intact : table.intact = true) :
    connection.execute statement parameters =
      match Database.write table (connection.database.references table) 0 statement
        (parameters.map Value.parameter) with
      | .error error => (.error error, { connection with changes := 0 })
      | .ok progress =>
          if 0 < progress.violations then (.error .foreignKey, { connection with changes := 0 })
          else (.ok progress.changed, { connection with
            database := connection.database.setEntries table.name progress.entries,
            changes := progress.changed }) := by
  have prepared := prepare_eq steady worded found (by rw [List.length_map, counted]) intact
  have references : connection.references table = connection.database.references table := by
    funext touched
    simp only [Connection.references, steady.enforced, if_true]
  have written : Database.write table (connection.references table) connection.pending =
      Database.write table (connection.database.references table) 0 := by rw [references, steady.whole]
  simp only [execute, run, runText, prepared, written]
  generalize Database.write table (connection.database.references table) 0 statement (parameters.map Value.parameter) =
    outcome
  cases outcome with
  | error error => simp only [change, statementFailed, steady.statementEnd, Except.map, Connection.counted]
  | ok progress =>
    simp only [change, steady.requireWritable, settle_eq steady]
    split <;> rfl

theorem query_eq (steady : connection.Steady) (worded : requireText statement.text statement.arity = .ok ())
    {relation : Relation}
    (found : connection.database.target true statement (parameters.map Value.parameter) = .ok (.reads relation))
    (counted : parameters.length = statement.arity) (intact : relation.intact = true) :
    connection.query statement parameters =
      (.ok (Database.read relation statement (parameters.map Value.parameter)), connection) := by
  have prepared := prepare_eq steady worded found (by rw [List.length_map, counted]) intact
  simp only [query, run, runText, prepared, steady.statementEnd]

/-- A text that is not right is refused before anything else. -/
theorem execute_unworded (connection : Connection) (parameters : List Value) {error : EngineError}
    (unworded : requireText statement.text statement.arity = .error error) :
    connection.execute statement parameters = (.error error, connection) := by
  simp only [execute, run, runText, prepare, unworded, bind, Except.bind, counted]

end Connection
end EntityStore.Engine
