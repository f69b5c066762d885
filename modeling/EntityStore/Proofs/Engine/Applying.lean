import EntityStore.Proofs.Engine.Within
import EntityStore.Proofs.Engine.Running

/-! What statements make of a database. A statement that succeeds does the same on every connection, whatever the
connection enforces and whatever waits for its commit, so what it does is a function of the database. A statement that
fails leaves the database alone. -/

namespace EntityStore.Engine

namespace Progress

/-- The entries alone, without the count of missing parents. -/
def entriesOf (outcome : Except EngineError Progress) : Except EngineError (List Entry) := outcome.map (·.entries)

theorem entriesOf_bind {first : Except EngineError α} {next other : α → Except EngineError Progress}
    (same : ∀ value, entriesOf (next value) = entriesOf (other value)) :
    entriesOf (first >>= next) = entriesOf (first >>= other) := by
  cases first with
  | error error => rfl
  | ok value => exact same value

variable {table : Table} {references others : References} {progress other : Progress}

theorem entriesOf_insert (same : progress.entries = other.entries) (number : Value) (values : Row) :
    entriesOf (progress.insert table references number values) = entriesOf (other.insert table others number values) := by
  unfold insert
  rw [same]
  dsimp only
  split
  all_goals
    refine entriesOf_bind fun number => entriesOf_bind fun _ => ?_
    split
    · exact entriesOf_bind fun _ => entriesOf_bind fun _ => rfl
    · exact entriesOf_bind fun _ => rfl

theorem entriesOf_updateEntry (same : progress.entries = other.entries) (assignments : List Assignment)
    (entry : Entry) :
    entriesOf (progress.updateEntry table references assignments entry) =
      entriesOf (other.updateEntry table others assignments entry) := by
  unfold updateEntry
  rw [same]
  dsimp only
  split
  all_goals
    exact entriesOf_bind fun number => entriesOf_bind fun _ => entriesOf_bind fun _ => entriesOf_bind fun _ => rfl

theorem entriesOf_foldlM {step next : Progress → α → Except EngineError Progress}
    (alike : ∀ progress other item, progress.entries = other.entries →
      entriesOf (step progress item) = entriesOf (next other item))
    (same : progress.entries = other.entries) (items : List α) :
    entriesOf (items.foldlM step progress) = entriesOf (items.foldlM next other) := by
  induction items generalizing progress other with
  | nil => exact congrArg Except.ok same
  | cons item rest ih =>
    have here := alike progress other item same
    rw [List.foldlM_cons, List.foldlM_cons]
    generalize step progress item = first at here ⊢
    generalize next other item = second at here ⊢
    cases first <;> cases second
    · exact here
    · cases here
    · cases here
    · exact ih (Except.ok.inj here)

theorem entriesOf_update (same : progress.entries = other.entries) (assignments : List Assignment)
    (chosen : Entry → Bool) :
    entriesOf (progress.update table references assignments chosen) =
      entriesOf (other.update table others assignments chosen) := by
  unfold update
  rw [same]
  exact entriesOf_foldlM (fun _ _ entry alike => entriesOf_updateEntry alike assignments entry) same _

end Progress

namespace Database

theorem entriesOf_write (table : Table) (references others : (Nat → Bool) → References) (violations waiting : Int)
    (statement : Statement) (parameters : List Value) :
    Progress.entriesOf (write table references violations statement parameters) =
      Progress.entriesOf (write table others waiting statement parameters) := by
  cases statement with
  | insert name columns | insertRows name columns more =>
    simp only [write]
    refine Progress.entriesOf_foldlM (fun progress other values alike => ?_) ?_ _
    · exact Progress.entriesOf_insert alike _ _
    · rfl
  | update name columns key =>
    simp only [write]
    refine Progress.entriesOf_update ?_ _ _
    rfl
  | delete name key => simp only [write, Progress.delete, Progress.entriesOf, Except.map]
  | select name columns key order | probe name key => simp only [write, Progress.entriesOf, Except.map]

/-- A computation that goes on with less to check succeeds where the stricter one does. -/
theorem bind_ok_of_imp {ε α β : Type} {first : Except ε α} {next other : α → Except ε β} {result : β}
    (succeeds : first >>= next = .ok result) (lenient : ∀ value, next value = .ok result → other value = .ok result) :
    first >>= other = .ok result := by
  obtain ⟨value, found, rest⟩ := bind_eq_ok.mp succeeds
  rw [found]
  exact lenient value rest

/-- What a statement works on does not depend on whether parents are enforced, which can only refuse it. -/
theorem target_unenforced {database : Database} {enforced : Bool} {statement : Statement} {parameters : List Value}
    {known : Target} (found : database.target enforced statement parameters = .ok known) :
    database.target false statement parameters = .ok known := by
  cases enforced with
  | false => exact found
  | true =>
    cases statement with
    | select name columns key order | probe name key => exact found
    | insert name columns =>
      refine bind_ok_of_imp found fun table found => bind_ok_of_imp found fun _ found => ?_
      obtain ⟨_, -, kept⟩ := bind_eq_ok.mp found
      exact kept
    | insertRows name columns more =>
      cases more
      all_goals
        refine bind_ok_of_imp found fun table found => bind_ok_of_imp found fun _ found => ?_
        obtain ⟨_, -, kept⟩ := bind_eq_ok.mp found
        exact kept
    | update name columns key =>
      refine bind_ok_of_imp found fun table found => bind_ok_of_imp found fun _ found => ?_
      obtain ⟨_, -, kept⟩ := bind_eq_ok.mp found
      exact kept
    | delete name key =>
      refine bind_ok_of_imp found fun table found => ?_
      obtain ⟨_, -, kept⟩ := bind_eq_ok.mp found
      exact kept

/-- The database after a statement that succeeds. -/
def after (database : Database) (statement : Statement) (parameters : List Value) : Database :=
  let bound := parameters.map Value.parameter
  match database.target false statement bound with
  | .ok (.writes table) =>
      match write table (fun _ => .unchecked) 0 statement bound with
      | .ok progress => database.setEntries table.name progress.entries
      | .error _ => database
  | .ok (.reads _) | .error _ => database

theorem after_reads {database : Database} {statement : Statement} {parameters : List Value} {relation : Relation}
    (found : database.target false statement (parameters.map Value.parameter) = .ok (.reads relation)) :
    database.after statement parameters = database := by
  simp only [after, found]

theorem after_writes {database : Database} {statement : Statement} {parameters : List Value} {table : Table}
    (found : database.target false statement (parameters.map Value.parameter) = .ok (.writes table))
    {references : (Nat → Bool) → References} {violations : Int} {progress : Progress}
    (written : write table references violations statement (parameters.map Value.parameter) = .ok progress) :
    database.after statement parameters = database.setEntries table.name progress.entries := by
  have same := entriesOf_write table references (fun _ => .unchecked) violations 0 statement
    (parameters.map Value.parameter)
  rw [written] at same
  simp only [after, found]
  generalize write table (fun _ => .unchecked) 0 statement (parameters.map Value.parameter) = outcome at same ⊢
  cases outcome with
  | error error => cases same
  | ok other => exact congrArg (database.setEntries table.name) (Except.ok.inj same).symm

end Database

namespace Connection
variable {connection next : Connection} {statement : Statement} {parameters : List Value} {table : Table}

@[simp] theorem statementEnd_database (connection : Connection) :
    connection.statementEnd.database = connection.database := by
  unfold statementEnd
  split <;> rfl

@[simp] theorem statementEnd_saved (connection : Connection) : connection.statementEnd.saved = connection.saved := by
  unfold statementEnd
  split <;> rfl

/-- A statement that failed. It may have ended as all statements do, and the count of changes may be reset. -/
def Failed (before after : Connection) : Prop :=
  ∃ changes, after = { before with changes := changes } ∨ after = { before.statementEnd with changes := changes }

theorem Failed.database (failed : Failed connection next) : next.database = connection.database := by
  obtain ⟨changes, rfl | rfl⟩ := failed
  · rfl
  · exact connection.statementEnd_database

theorem Failed.saved (failed : Failed connection next) : next.saved = connection.saved := by
  obtain ⟨changes, rfl | rfl⟩ := failed
  · rfl
  · exact connection.statementEnd_saved

theorem Failed.changes (ends : connection.statementEnd = connection) (failed : Failed connection next) :
    ∃ changes, next = { connection with changes := changes } := by
  obtain ⟨changes, same⟩ := failed
  rw [ends, or_self] at same
  exact ⟨changes, same⟩

/-- A statement that succeeded, with the database that it left. -/
def Succeeded (before after : Connection) (database : Database) : Prop :=
  after.database = database ∧ after.saved = before.saved

theorem settle_cases {progress : Progress} {outcome : Except EngineError Nat}
    (settled : connection.settle table progress = (outcome, next)) :
    match outcome with
    | .ok _ => Succeeded connection next (connection.database.setEntries table.name progress.entries)
    | .error _ => Failed connection next := by
  unfold settle at settled
  dsimp only at settled
  split at settled
  · cases settled
    exact ⟨rfl, rfl⟩
  · split at settled
    · cases settled
      exact ⟨0, .inr rfl⟩
    · cases settled
      exact ⟨rfl, connection.statementEnd_saved⟩

theorem change_cases {change : Except EngineError Progress} {outcome : Except EngineError Nat}
    (changed : connection.change table change = (outcome, next)) :
    match outcome with
    | .ok _ => ∃ progress, change = .ok progress ∧
        Succeeded connection next (connection.database.setEntries table.name progress.entries)
    | .error _ => Failed connection next := by
  unfold Connection.change at changed
  split at changed
  · cases changed
    exact ⟨0, .inr rfl⟩
  · split at changed
    · have settled := settle_cases changed
      cases outcome with
      | ok count => exact ⟨_, rfl, settled⟩
      | error error => exact settled
    · cases changed
      exact ⟨0, .inr rfl⟩
  · have settled := settle_cases changed
    cases outcome with
    | ok count => exact ⟨_, rfl, settled⟩
    | error error => exact settled

theorem run_cases {outcome : Except EngineError Outcome} (ran : connection.run statement parameters = (outcome, next)) :
    match outcome with
    | .ok (.rows _) => next = connection.statementEnd ∧ connection.database.after statement parameters = connection.database
    | .ok (.changed _) => Succeeded connection next (connection.database.after statement parameters)
    | .error _ => Failed connection next := by
  unfold run runText at ran
  dsimp only at ran
  split at ran
  · cases ran
    exact ⟨connection.changes, .inl rfl⟩
  · rename_i relation prepared
    cases ran
    exact ⟨rfl, Database.after_reads (Database.target_unenforced (prepare_target prepared))⟩
  · rename_i written prepared
    rcases changed : connection.change written (Database.write written (connection.references written)
      connection.pending statement (parameters.map Value.parameter)) with ⟨result, left⟩
    rw [changed] at ran
    cases ran
    have cases := change_cases changed
    cases result with
    | ok count =>
      obtain ⟨progress, done, succeeded⟩ := cases
      rw [← Database.after_writes (Database.target_unenforced (prepare_target prepared)) done] at succeeded
      exact succeeded
    | error error => exact cases

theorem execute_cases {outcome : Except EngineError Nat}
    (ran : connection.execute statement parameters = (outcome, next)) :
    match outcome with
    | .ok _ => Succeeded connection next (connection.database.after statement parameters)
    | .error _ => Failed connection next := by
  unfold execute at ran
  rcases done : connection.run statement parameters with ⟨result, left⟩
  rw [done] at ran
  have cases := run_cases done
  match result with
  | .error error =>
    cases ran
    exact cases
  | .ok (.changed count) =>
    cases ran
    exact cases
  | .ok (.rows []) =>
    cases ran
    obtain ⟨rfl, same⟩ := cases
    exact ⟨by rw [same, statementEnd_database], statementEnd_saved connection⟩
  | .ok (.rows (row :: rest)) =>
    cases ran
    exact ⟨connection.statementEnd.changes, .inr cases.1⟩

theorem query_cases {outcome : Except EngineError (List Row)}
    (ran : connection.query statement parameters = (outcome, next)) :
    match outcome with
    | .ok rows => Succeeded connection next (connection.database.after statement parameters) ∧
        (rows ≠ [] → next = connection.statementEnd)
    | .error _ => Failed connection next := by
  unfold query at ran
  rcases done : connection.run statement parameters with ⟨result, left⟩
  rw [done] at ran
  have cases := run_cases done
  match result with
  | .error error =>
    cases ran
    exact cases
  | .ok (.changed count) =>
    cases ran
    exact ⟨cases, fun some => absurd rfl some⟩
  | .ok (.rows rows) =>
    cases ran
    obtain ⟨rfl, same⟩ := cases
    exact ⟨⟨by rw [same, statementEnd_database], statementEnd_saved connection⟩, fun _ => rfl⟩

end Connection
end EntityStore.Engine
