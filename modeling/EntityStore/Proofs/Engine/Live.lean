import EntityStore.Proofs.Engine.Within
import EntityStore.Proofs.Plan

/-! Operations on the engine itself, under a token that stays live. Such an operation does what its statements do, and
fails where one of them fails. -/

namespace EntityStore
open Engine (Connection Attached)

/-- A transaction whose token is live, with the cursor of its last query. -/
abbrev Engine.Attached.live (connection : Connection) (cursor : Cursor) : Attached := ⟨⟨connection, .live⟩, cursor⟩

namespace Operation
variable {connection after : Connection} {cursor : Cursor} {statement : Statement} {parameters : List Value}

theorem answer_execute (cursor : Cursor) (statement : Statement) (parameters : List Value)
    {outcome : Except EngineError Nat}
    (ran : connection.execute statement parameters = (outcome, after)) :
    Attached.answer (.execute statement parameters) (.live connection cursor) =
      ((outcome.mapError .engine).map fun _ => (), .live after cursor) := by
  simp only [Attached.answer, Attached.after, Engine.Transaction.execute, Engine.Transaction.guarded, ran]
  rfl

theorem result_execute {count : Nat} (ran : connection.execute statement parameters = (.ok count, after)) :
    (execute statement parameters).result Attached.store (.live connection cursor) = (.ok (), .live after cursor) := by
  have answered := answer_execute cursor statement parameters ran
  rw [execute, result_ofStatement]
  exact congrArg (fun step => (Except.mapError CrudError.statement step.1, step.2)) answered

theorem result_execute_error {error : EngineError}
    (ran : connection.execute statement parameters = (.error error, after)) :
    (execute statement parameters).result Attached.store (.live connection cursor) =
      (.error (.statement (.engine error)), .live after cursor) := by
  have answered := answer_execute cursor statement parameters ran
  rw [execute, result_ofStatement]
  exact congrArg (fun step => (Except.mapError CrudError.statement step.1, step.2)) answered

theorem result_query {rows : List Row} (ran : connection.query statement parameters = (.ok rows, after)) :
    (query statement parameters).result Attached.store (.live connection cursor) =
      (.ok rows.length, .live after (.ofRows rows)) := by
  have answered : Attached.answer (.query statement parameters) (.live connection cursor) =
      (.ok rows.length, .live after (.ofRows rows)) := by
    simp only [Attached.answer, Attached.query, Engine.Transaction.query, Engine.Transaction.guarded, ran]
    rfl
  rw [query, result_ofStatement]
  exact congrArg (fun step => (Except.mapError CrudError.statement step.1, step.2)) answered

theorem result_advance_end (limit : Nat) (current : Option Row) :
    (advance limit).result Attached.store (.live connection ⟨[], current⟩) =
      (.ok none, .live connection ⟨[], none⟩) := by
  rw [advance, result_ofStatement]
  rfl

theorem result_advance (limit : Nat) (row : Row) (rest : List Row) (current : Option Row) :
    (advance (limit + 1)).result Attached.store (.live connection ⟨row :: rest, current⟩) =
      (.ok (some ⟨limit, Nat.lt_succ_self limit⟩), .live connection ⟨rest, some row⟩) := by
  rw [advance, result_ofStatement]
  rfl

theorem result_scan (rest : List Row) (row : Row) :
    scan.result Attached.store (.live connection ⟨rest, some row⟩) = (.ok row, .live connection ⟨rest, some row⟩) := by
  rw [scan, result_ofStatement]
  rfl

theorem result_close (attached : Attached) : close.result Attached.store attached = (.ok (), attached) := rfl

theorem result_ofCodec {decoded : Except CodecError α} {value : α} (read : decoded = .ok value) (attached : Attached) :
    (ofCodec decoded).result Attached.store attached = (.ok value, attached) := by
  rw [read]
  rfl

theorem result_collect (values read : List Value) (current : Option Row) :
    (collect values.length read).result Attached.store (.live connection ⟨values.map ([·]), current⟩) =
      (.ok (read.reverse ++ values), .live connection ⟨[], none⟩) := by
  induction values generalizing read current with
  | nil =>
    rw [List.length_nil, collect, result_bind, List.map_nil, result_advance_end, List.append_nil]
    rfl
  | cons value rest ih =>
    rw [List.length_cons, collect, result_bind, List.map_cons, result_advance]
    dsimp only
    rw [result_bind, result_scan]
    dsimp only
    rw [result_bind, result_ofCodec (show Codec.column [value] 0 = .ok value from rfl)]
    dsimp only
    rw [ih, List.reverse_cons, List.append_assoc, List.singleton_append]

section Transaction
variable {body : Operation α} {opened left : Connection} {last : Cursor}

theorem result_begin (begun : connection.beginWriting = (.ok (), opened)) :
    (ofStatement (Procedure.ask .begin)).result Attached.store (.live connection cursor) =
      (.ok (), .live opened cursor) := by
  have answered : Attached.answer .begin (.live connection cursor) = (.ok (), .live opened cursor) := by
    simp only [Attached.answer, Attached.after, Engine.Transaction.begin, Engine.Transaction.guarded, begun]
    rfl
  rw [result_ofStatement]
  exact congrArg (fun step => (Except.mapError CrudError.statement step.1, step.2)) answered

theorem result_check :
    (ofStatement (Procedure.ask .check)).result Attached.store (.live connection cursor) =
      (.ok (), .live connection cursor) := rfl

theorem result_commit (kept : connection.commit = (.ok (), after)) :
    (ofStatement (Procedure.ask .commit)).result Attached.store (.live connection cursor) =
      (.ok (), .live after cursor) := by
  have answered : Attached.answer .commit (.live connection cursor) = (.ok (), .live after cursor) := by
    simp only [Attached.answer, Attached.after, Engine.Transaction.commit, Engine.Transaction.guarded, kept]
    rfl
  rw [result_ofStatement]
  exact congrArg (fun step => (Except.mapError CrudError.statement step.1, step.2)) answered

theorem result_inTransaction {value : α} (begun : connection.beginWriting = (.ok (), opened))
    (ran : body.result Attached.store (.live opened cursor) = (.ok value, .live left last))
    (kept : left.commit = (.ok (), after)) :
    (inTransaction body).result Attached.store (.live connection cursor) = (.ok value, .live after last) := by
  have guardedBody : (guarded body).result Attached.store (.live opened cursor) = (.ok value, .live after last) := by
    rw [guarded, result_bind, ran]
    dsimp only
    rw [result_bind, result_check]
    dsimp only
    rw [result_bind, result_commit kept]
    rfl
  rw [inTransaction, result_bind, result_begin begun]
  dsimp only
  rw [result_orRollback, guardedBody]

/-- A body that fails is rolled back, and its error is that of the whole. -/
theorem result_inTransaction_error {error : CrudError} (begun : connection.beginWriting = (.ok (), opened))
    (ran : body.result Attached.store (.live opened cursor) = (.error error, .live left last))
    (opens : left.autocommit = false) (undone : left.rollback = (.ok (), after)) :
    (inTransaction body).result Attached.store (.live connection cursor) = (.error error, .live after last) := by
  have rolled : Attached.store.answer .rollback (.live left last) = (.ok (), .live after last) := by
    simp only [Attached.store, Attached.answer, Attached.after, Engine.Transaction.rollback, opens, Bool.false_eq_true,
      if_false, undone]
    rfl
  have guardedBody : (guarded body).result Attached.store (.live opened cursor) = (.error error, .live left last) := by
    rw [guarded, result_bind, ran]
  rw [inTransaction, result_bind, result_begin begun]
  dsimp only
  rw [result_orRollback, guardedBody]
  dsimp only
  rw [rolled]
  rfl

end Transaction

end Operation
end EntityStore
