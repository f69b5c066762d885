import EntityStore.Engine.Store
import EntityStore.Proofs.Exchange

/-! Stores around the engine. Such a store may refuse a statement or a commit, may report an error although a statement
or a rollback went through, and may lose its token at any time. What it cannot do is to touch the connection in any
other way than the engine does. -/

namespace EntityStore.Engine

namespace Connection

/-- The connection after a rollback, which does nothing where no transaction is open. -/
def undone (connection : Connection) : Connection :=
  if connection.autocommit then connection else connection.rollback.2

end Connection

/-- What a request with its answer may have done to the connection behind a store. -/
def Effect : (request : Request) → request.Response → Connection → Connection → Prop
  | .begin, .ok (), before, after => before.beginWriting = (.ok (), after)
  | .execute statement parameters, .ok (), before, after =>
      ∃ count, before.execute statement parameters = (.ok count, after)
  | .execute statement parameters, .error _, before, after =>
      after = before ∨ after = (before.execute statement parameters).2
  | .query statement parameters, .ok _, before, after =>
      ∃ rows, before.query statement parameters = (.ok rows, after)
  | .query statement parameters, .error _, before, after =>
      after = before ∨ after = (before.query statement parameters).2
  | .commit, .ok (), before, after => before.commit = (.ok (), after)
  | .commit, .error _, before, after => after = before ∨ ∃ cause, before.commit = (.error cause, after)
  | .rollback, _, before, after => after = before.undone
  | .begin, .error _, before, after | .advance _, _, before, after | .scan, _, before, after
  | .close, _, before, after | .check, _, before, after => after = before

/-- A store that the engine is behind, with the connection that its states stand for. -/
def Wraps (store : Store σ) (connection : σ → Connection) : Prop :=
  ∀ request state, Effect request (store.answer request state).1 (connection state)
    (connection (store.answer request state).2)

theorem Wraps.effect {store : Store σ} {connection : σ → Connection} (wraps : Wraps store connection)
    {request : Request} {state after : σ} {response : request.Response}
    (answered : store.answer request state = (response, after)) :
    Effect request response (connection state) (connection after) := by
  have effect := wraps request state
  rw [answered] at effect
  exact effect

namespace Attached

abbrev connection (attached : Attached) : Connection := attached.transaction.connection

end Attached

/-- A guarded step was kept from running by the token, or ran as it does without one. -/
theorem Transaction.guarded_cases {transaction after : Transaction}
    {step : Connection → Except EngineError α × Connection} {outcome : Except StatementError α}
    (ran : transaction.guarded step = (outcome, after)) :
    (∃ error, outcome = .error error) ∧ after.connection = transaction.connection ∨
      ∃ answer, step transaction.connection = (answer, after.connection) ∧ outcome = answer.mapError .engine := by
  unfold guarded at ran
  split at ran
  · cases ran
    exact .inl ⟨⟨_, rfl⟩, rfl⟩
  · cases ran
    exact .inr ⟨_, rfl, rfl⟩

theorem Transaction.guarded_ok {transaction after : Transaction}
    {step : Connection → Except EngineError α × Connection} {answer : α}
    (ran : transaction.guarded step = (.ok answer, after)) :
    step transaction.connection = (.ok answer, after.connection) := by
  rcases guarded_cases ran with ⟨⟨_, impossible⟩, -⟩ | ⟨outcome, ran, same⟩
  · cases impossible
  · cases outcome with
    | error error => cases same
    | ok found =>
      cases same
      exact ran

theorem Connection.beginWriting_error {connection after : Connection} {error : EngineError}
    (failed : connection.beginWriting = (.error error, after)) : after = connection := by
  unfold beginWriting begin at failed
  repeat' split at failed
  all_goals cases failed
  all_goals rfl

/-- A connection as it is once a transaction has been opened. -/
def Connection.opened (connection : Connection) : Connection := { connection with saved := some connection.database }

theorem Connection.beginWriting_ok {connection after : Connection} (begun : connection.beginWriting = (.ok (), after)) :
    after = connection.opened := by
  unfold beginWriting begin at begun
  repeat' split at begun
  all_goals cases begun
  rfl

theorem Connection.commit_eq {connection after : Connection} (committed : connection.commit = (.ok (), after)) :
    after = { connection with saved := none, deferring := false, pending := 0 } := by
  unfold commit at committed
  repeat' split at committed
  all_goals cases committed
  rfl

theorem Connection.commit_ok {connection after : Connection} (committed : connection.commit = (.ok (), after)) :
    after.autocommit = true ∧ after.database = connection.database := by
  rw [commit_eq committed]
  exact ⟨rfl, rfl⟩

theorem Connection.committed_eq {connection : Connection} (idle : connection.autocommit = true) :
    connection.committed = connection.database := by
  rw [committed, Option.isNone_iff_eq_none.mp idle, Option.getD_none]

/-- A commit that is refused inside a transaction leaves it open as it is. -/
theorem Connection.commit_refused {before after : Connection} (opened : before.autocommit = false)
    (refused : after = before ∨ ∃ cause, before.commit = (.error cause, after)) : after = before := by
  rcases refused with same | ⟨cause, failed⟩
  · exact same
  unfold commit at failed
  simp only [opened, Bool.false_eq_true, if_false] at failed
  split at failed
  all_goals cases failed
  rfl

theorem Attached.effect_begin (attached : Attached) :
    Effect .begin (Attached.answer .begin attached).1 attached.connection (Attached.answer .begin attached).2.connection := by
  rcases ran : attached.transaction.begin with ⟨outcome, after⟩
  simp only [Attached.answer, Attached.after, ran]
  rcases Transaction.guarded_cases ran with ⟨⟨error, rfl⟩, same⟩ | ⟨answer, step, rfl⟩
  · exact same
  cases answer with
  | ok _ => exact step
  | error error => exact Connection.beginWriting_error step

theorem Attached.effect_execute (attached : Attached) (statement : Statement) (parameters : List Value) :
    Effect (.execute statement parameters) (Attached.answer (.execute statement parameters) attached).1
      attached.connection (Attached.answer (.execute statement parameters) attached).2.connection := by
  rcases ran : attached.transaction.execute statement parameters with ⟨outcome, after⟩
  simp only [Attached.answer, Attached.after, ran]
  rcases Transaction.guarded_cases ran with ⟨⟨error, rfl⟩, same⟩ | ⟨answer, step, rfl⟩
  · exact .inl same
  cases answer with
  | ok count => exact ⟨count, step⟩
  | error error => exact .inr (congrArg Prod.snd step).symm

theorem Attached.effect_query (attached : Attached) (statement : Statement) (parameters : List Value) :
    Effect (.query statement parameters) (Attached.answer (.query statement parameters) attached).1
      attached.connection (Attached.answer (.query statement parameters) attached).2.connection := by
  rcases ran : attached.transaction.query statement parameters with ⟨outcome, after⟩
  rcases Transaction.guarded_cases ran with ⟨⟨error, rfl⟩, same⟩ | ⟨answer, step, rfl⟩
  · simp only [Attached.answer, Attached.query, ran]
    exact .inl same
  cases answer with
  | ok rows =>
    have read : attached.transaction.query statement parameters = (.ok rows, after) := ran
    simp only [Attached.answer, Attached.query, read]
    exact ⟨rows, step⟩
  | error error =>
    have refused : attached.transaction.query statement parameters = (.error (.engine error), after) := ran
    simp only [Attached.answer, Attached.query, refused]
    exact .inr (congrArg Prod.snd step).symm

theorem Attached.effect_commit (attached : Attached) :
    Effect .commit (Attached.answer .commit attached).1 attached.connection
      (Attached.answer .commit attached).2.connection := by
  rcases ran : attached.transaction.commit with ⟨outcome, after⟩
  simp only [Attached.answer, Attached.after, ran]
  rcases Transaction.guarded_cases ran with ⟨⟨error, rfl⟩, same⟩ | ⟨answer, step, rfl⟩
  · exact .inl same
  cases answer with
  | ok _ => exact step
  | error error => exact .inr ⟨error, step⟩

theorem Attached.effect_rollback (attached : Attached) (answer : Except StatementError Unit) :
    Effect .rollback answer attached.connection (Attached.answer .rollback attached).2.connection := by
  simp only [Effect, Attached.answer, Attached.after, Transaction.rollback, Connection.undone]
  split <;> rfl

theorem Attached.wraps : Wraps Attached.store Attached.connection := by
  intro request attached
  cases request with
  | begin => exact attached.effect_begin
  | execute statement parameters => exact attached.effect_execute statement parameters
  | query statement parameters => exact attached.effect_query statement parameters
  | commit => exact attached.effect_commit
  | rollback => exact attached.effect_rollback _
  | advance _ | scan | close | check => rfl

namespace Faults

theorem cancelling_eq (faults : Faults) (statement : Statement) (step : Except StatementError α × Attached) :
    (faults.cancelling statement step).1 = step.1 ∧
      (faults.cancelling statement step).2.connection = step.2.connection := by
  rcases step with ⟨_ | _, attached⟩
  · exact ⟨rfl, rfl⟩
  · unfold cancelling
    dsimp only
    split <;> exact ⟨rfl, rfl⟩

theorem answer_execute (faults : Faults) (statement : Statement) (parameters : List Value) (attached : Attached) :
    faults.answer (.execute statement parameters) attached =
      if chooses faults.failStatement statement then (.error (.backend "injected statement failure"), attached)
      else faults.cancelling statement (Attached.answer (.execute statement parameters) attached) := rfl

theorem answer_commit (faults : Faults) (attached : Attached) :
    faults.answer .commit attached =
      if faults.failCommit then (.error (.backend "injected commit failure"), attached)
      else Attached.answer .commit attached := rfl

theorem answer_rollback (faults : Faults) (attached : Attached) :
    (faults.answer .rollback attached).2 = (Attached.answer .rollback attached).2 := by
  unfold answer
  dsimp only
  split <;> rfl

theorem wraps (faults : Faults) : Wraps faults.store Attached.connection := by
  intro request attached
  change Effect request (faults.answer request attached).1 attached.connection
    (faults.answer request attached).2.connection
  cases request with
  | execute statement parameters =>
    rw [answer_execute]
    split
    · exact .inl rfl
    obtain ⟨outcome, connection⟩ := faults.cancelling_eq statement (Attached.answer (.execute statement parameters) attached)
    rw [outcome, connection]
    exact attached.effect_execute statement parameters
  | query statement parameters =>
    obtain ⟨outcome, connection⟩ :=
      faults.cancelling_eq statement (Attached.answer (.query statement parameters) attached)
    have effect := attached.effect_query statement parameters
    rw [← outcome, ← connection] at effect
    exact effect
  | commit =>
    rw [answer_commit]
    split
    · exact .inl rfl
    · exact attached.effect_commit
  | rollback =>
    rw [answer_rollback]
    exact attached.effect_rollback _
  | begin => exact attached.effect_begin
  | advance _ | scan | close | check => rfl

end Faults
end EntityStore.Engine
