import EntityStore.Proofs.Engine.Wrapping

/-! What the steps of a transaction leave alone. While a transaction is open, a statement can change the database, the
count of missing parents and the count of changes, and nothing else about the connection. -/

namespace EntityStore.Engine.Connection

/-- Whether a connection is what statements inside a transaction can have made of another. -/
def Within (before after : Connection) : Prop :=
  ∃ database pending changes,
    after = { before with database := database, pending := pending, changes := changes }

theorem Within.refl (connection : Connection) : Within connection connection := ⟨_, _, _, rfl⟩

theorem Within.trans {first second third : Connection} (early : Within first second) (late : Within second third) :
    Within first third := by
  obtain ⟨_, _, _, rfl⟩ := early
  obtain ⟨database, pending, changes, rfl⟩ := late
  exact ⟨database, pending, changes, rfl⟩

theorem Within.saved {before after : Connection} (within : Within before after) : after.saved = before.saved := by
  obtain ⟨_, _, _, rfl⟩ := within
  rfl

theorem Within.autocommit {before after : Connection} (within : Within before after) :
    after.autocommit = before.autocommit := congrArg Option.isNone within.saved

variable {connection : Connection}

theorem Within.rollback (within : Within connection.opened left) :
    left.rollback = (.ok (), { left with
      database := connection.database, saved := none, deferring := false, pending := 0 }) := by
  obtain ⟨database, pending, changes, rfl⟩ := within
  rfl

theorem statementEnd_eq (opened : connection.autocommit = false) : connection.statementEnd = connection := by
  simp [statementEnd, opened]

theorem counted_connection (step : Except EngineError Outcome × Connection) : (counted step).2 = step.2 := by
  unfold counted
  split <;> rfl

theorem query_connection (connection : Connection) (statement : Statement) (parameters : List Value) :
    (connection.query statement parameters).2 = (connection.run statement parameters).2 := by
  unfold query
  split <;> simp [*]

section Statement
variable (ends : connection.statementEnd = connection)
include ends

theorem statementFailed_eq : connection.statementFailed = { connection with changes := 0 } := by
  rw [statementFailed, ends]

theorem settle_within (table : Table) (progress : Progress) :
    Within connection (connection.settle table progress).2 := by
  unfold settle
  rw [ends, statementFailed_eq ends]
  dsimp only
  split
  · exact ⟨_, _, _, rfl⟩
  · split <;> exact ⟨_, _, _, rfl⟩

theorem change_within (table : Table) (outcome : Except EngineError Progress) :
    Within connection (connection.change table outcome).2 := by
  unfold change
  rw [statementFailed_eq ends]
  split
  · exact ⟨_, _, _, rfl⟩
  · split
    · exact settle_within ends table _
    · exact ⟨_, _, _, rfl⟩
  · exact settle_within ends table _

theorem run_within (statement : Statement) (parameters : List Value) :
    Within connection (connection.run statement parameters).2 := by
  unfold run runText
  dsimp only
  split
  · exact .refl connection
  · rw [ends]
    exact .refl connection
  · exact change_within ends _ _

theorem execute_within (statement : Statement) (parameters : List Value) :
    Within connection (connection.execute statement parameters).2 := by
  unfold execute
  rw [counted_connection]
  exact run_within ends statement parameters

theorem query_within (statement : Statement) (parameters : List Value) :
    Within connection (connection.query statement parameters).2 := by
  rw [query_connection]
  exact run_within ends statement parameters

end Statement

/-- The connection after the statements among some exchanges, run one after the other. -/
def replay (connection : Connection) : List Exchange → Connection
  | [] => connection
  | ⟨.execute statement parameters, _⟩ :: rest => (connection.execute statement parameters).2.replay rest
  | ⟨.query statement parameters, _⟩ :: rest => (connection.query statement parameters).2.replay rest
  | _ :: rest => connection.replay rest

theorem replay_append (connection : Connection) (first rest : List Exchange) :
    connection.replay (first ++ rest) = (connection.replay first).replay rest := by
  induction first generalizing connection with
  | nil => rfl
  | cons exchange first ih =>
    rcases exchange with ⟨request, response⟩
    cases request <;> exact ih _

end EntityStore.Engine.Connection
