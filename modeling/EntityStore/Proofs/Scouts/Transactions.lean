import EntityStore.Proofs.Engine.Live
import EntityStore.Proofs.Scouts.Effects
import EntityStore.Proofs.Scouts.Soundness

/-! Transactions on a migrated database. One that succeeds leaves the rows that its writes make, and one that fails
leaves the rows that were there before. -/

namespace EntityStore
open Engine ScoutWrite

namespace Engine.Connection
variable {connection : Connection}

theorem Steady.beginWriting (steady : connection.Steady) (idle : connection.autocommit = true) :
    connection.beginWriting = (.ok (), connection.opened) := by
  simp only [Connection.beginWriting, begin, idle, if_true, steady.requireReadable]
  rfl

theorem Steady.commit (steady : connection.Steady) (opened : connection.autocommit = false) :
    connection.commit = (.ok (), { connection with saved := none, deferring := false, pending := 0 }) := by
  have none : ¬ (0 < connection.pending) := by
    rw [steady.whole]
    decide
  simp only [Connection.commit, opened, Bool.false_eq_true, if_false, if_neg none]

end Engine.Connection

namespace Holds
variable {connection left : Connection} {rows others : Rows} {cursor last : Cursor} {body : Operation α}

theorem opened (holds : Holds connection rows) : Holds connection.opened rows :=
  ⟨holds.steady.changed _ _ _, holds.stored⟩

theorem executeAll {writes : List ScoutWrite} (holds : Holds connection rows)
    (proper : ∀ write ∈ writes, write.Proper) (allowed : AllowedAll rows writes)
    (opened : connection.autocommit = false) (cursor : Cursor) :
    ∃ left, (Operation.executeAll (writes.map toWrite)).result Attached.store (.live connection cursor) =
        (.ok (), .live left cursor) ∧ Holds left (applyAll rows writes) ∧ left.autocommit = false := by
  induction writes generalizing connection rows with
  | nil => exact ⟨connection, rfl, holds, opened⟩
  | cons write rest ih =>
    obtain ⟨properHere, properRest⟩ := List.forall_mem_cons.mp proper
    rcases holds.write properHere with ⟨count, after, ran, -, held⟩ | ⟨after, -, refused, -⟩
    · have within := Connection.execute_within (Connection.statementEnd_eq opened) write.statement
        write.parameters
      rw [ran] at within
      obtain ⟨left, done, kept, still⟩ := ih held properRest allowed.2 (within.autocommit.trans opened)
      refine ⟨left, ?_, kept, still⟩
      have first : (Operation.execute write.toWrite.1 write.toWrite.2).result Attached.store (.live connection cursor) =
          (.ok (), .live after cursor) := Operation.result_execute ran
      rw [List.map_cons, Operation.executeAll, Operation.result_bind, first]
      exact done
    · exact absurd allowed.1 refused

/-- A body that succeeds on a transaction that has just been opened leaves what it made. -/
theorem committed {value : α} (holds : Holds connection rows) (idle : connection.autocommit = true)
    (ran : body.result Attached.store (.live connection.opened cursor) = (.ok value, .live left last))
    (held : Holds left others) (opened : left.autocommit = false) :
    ∃ after, (Operation.inTransaction body).result Attached.store (.live connection cursor) =
      (.ok value, .live after last) ∧ after.autocommit = true ∧ Holds after others := by
  have begun := holds.steady.beginWriting idle
  have kept := held.steady.commit opened
  exact ⟨_, Operation.result_inTransaction begun ran kept, rfl, held.steady.ended _ _ _, held.stored⟩

/-- A body that fails there leaves what was there before. -/
theorem undone {error : CrudError} (holds : Holds connection rows) (idle : connection.autocommit = true)
    (ran : body.result Attached.store (.live connection.opened cursor) = (.error error, .live left last))
    (within : Connection.Within connection.opened left) :
    ∃ after, (Operation.inTransaction body).result Attached.store (.live connection cursor) =
      (.error error, .live after last) ∧ after.autocommit = true ∧ Holds after rows := by
  have begun := holds.steady.beginWriting idle
  have opened : left.autocommit = false := within.autocommit.trans rfl
  refine ⟨_, Operation.result_inTransaction_error begun ran opened within.rollback, rfl, ?_, holds.stored⟩
  obtain ⟨database, pending, changes, rfl⟩ := within
  exact holds.steady.ended _ _ _

end Holds

theorem Sound.stepAll {writes : List ScoutWrite} {rows : Rows} (sound : Sound rows)
    (proper : ∀ write ∈ writes, write.Proper) (allowed : AllowedAll rows writes) : Sound (applyAll rows writes) := by
  induction writes generalizing rows with
  | nil => exact sound
  | cons write rest ih =>
    obtain ⟨properHere, properRest⟩ := List.forall_mem_cons.mp proper
    exact ih (sound.step properHere allowed.1) properRest allowed.2

end EntityStore
