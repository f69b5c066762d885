import EntityStore.Proofs.Scouts.Bodies
import EntityStore.Proofs.Scouts.Invariant

/-! Calls one after the other, each in a transaction of its own. Two lists of calls are interchangeable where every call
of either is done and both leave the same rows. -/

namespace EntityStore
open Engine ScoutWrite

/-- All tables of the scouts are in both databases and have the same rows, in whatever order. -/
def Engine.Database.SameRows (first second : Database) : Prop :=
  ∀ t : ScoutTable, ∃ rows others, first.rowsOf? t.name = some rows ∧ second.rowsOf? t.name = some others ∧
    rows.Perm others

theorem Holds.sameRows {first second : Connection} {rows others : Rows} (holds : Holds first rows)
    (idle : first.autocommit = true) (held : Holds second others) (closed : second.autocommit = true)
    (same : ∀ t, (rows t).Perm (others t)) : first.committed.SameRows second.committed := by
  obtain ⟨here, listed⟩ := holds.rowsOf?
  obtain ⟨there, found⟩ := held.rowsOf?
  rw [Connection.committed_eq idle, Connection.committed_eq closed]
  exact fun t =>
    ⟨here t, there t, (listed t).1, (found t).1, (listed t).2.trans ((same t).trans (found t).2.symm)⟩

namespace Mapping
variable {E : Type} {mapping : Mapping E} {connection : Connection} {rows others : Rows}

/-- The outcomes of calls under a live token, and the connection after the last of them. -/
def performAll (mapping : Mapping E) (connection : Connection) :
    List (Call E) → List (Except CrudError (Reply E)) × Connection
  | [] => ([], connection)
  | call :: rest =>
      let (outcome, _, left) := mapping.perform Attached.store call (.ofConnection connection .live)
      let (outcomes, connection) := mapping.performAll left.transaction.connection rest
      (outcome :: outcomes, connection)

structure Interchangeable (mapping : Mapping E) (connection : Connection) (first second : List (Call E)) : Prop where
  first_done : ∀ outcome ∈ (mapping.performAll connection first).1, outcome = .ok .done
  second_done : ∀ outcome ∈ (mapping.performAll connection second).1, outcome = .ok .done
  same : (mapping.performAll connection first).2.committed.SameRows (mapping.performAll connection second).2.committed

/-- All calls are done, and leave these rows and no transaction open. -/
structure Leaves (mapping : Mapping E) (connection : Connection) (calls : List (Call E)) (rows : Rows) : Prop where
  done : ∀ outcome ∈ (mapping.performAll connection calls).1, outcome = .ok .done
  idle : (mapping.performAll connection calls).2.autocommit = true
  holds : Holds (mapping.performAll connection calls).2 rows

theorem Leaves.nil (idle : connection.autocommit = true) (holds : Holds connection rows) :
    mapping.Leaves connection [] rows := ⟨fun _ member => absurd member List.not_mem_nil, idle, holds⟩

theorem performAll_cons {placement : Placement mapping} {call : Call E} {reply : Reply E}
    (done : placement.Done connection rows call reply) :
    ∃ after, after.autocommit = true ∧ Holds after (applyAll rows (placement.writes call)) ∧
      ∀ rest, mapping.performAll connection (call :: rest) =
        (.ok reply :: (mapping.performAll after rest).1, (mapping.performAll after rest).2) := by
  obtain ⟨outcome, idle, held⟩ := done.perform
  refine ⟨_, idle, held, fun rest => ?_⟩
  simp only [performAll, outcome]

theorem Leaves.cons {placement : Placement mapping} {call : Call E} {rest : List (Call E)}
    (done : placement.Done connection rows call .done)
    (later : ∀ after, after.autocommit = true → Holds after (applyAll rows (placement.writes call)) →
      mapping.Leaves after rest others) : mapping.Leaves connection (call :: rest) others := by
  obtain ⟨after, idle, held, performed⟩ := performAll_cons done
  obtain ⟨done, idle, holds⟩ := later after idle held
  refine ⟨?_, by rw [performed]; exact idle, by rw [performed]; exact holds⟩
  rw [performed]
  exact List.forall_mem_cons.mpr ⟨rfl, done⟩

theorem Leaves.interchangeable {first second : List (Call E)} (one : mapping.Leaves connection first rows)
    (two : mapping.Leaves connection second others) (same : ∀ t, (rows t).Perm (others t)) :
    mapping.Interchangeable connection first second where
  first_done := one.done
  second_done := two.done
  same := one.holds.sameRows one.idle two.holds two.idle same

end Mapping

theorem Placement.leaves_create {E : Type} {mapping : Mapping E} (placement : Placement mapping)
    {connection : Connection} {rows : Rows} (idle : connection.autocommit = true) (holds : Holds connection rows)
    {entity : E} (present : mapping.id entity ≠ "") (few : placement.Few entity)
    (absent : (rows placement.parent).filter (hasId (mapping.id entity)) = [])
    (free : ∀ child ∈ placement.children, (rows child.2).filter (hasId (mapping.id entity)) = []) :
    mapping.Leaves connection [.create entity] (applyAll rows (placement.writes (.create entity))) :=
  .cons (placement.done_create idle holds (placement.create_allowed present holds.distinct few absent free))
    fun _ idle held => .nil idle held

theorem Fresh.stores {connection : Connection} (fresh : Fresh connection) {boy : BoyScout} (compact : boy.Compact)
    (present : boy.id ≠ "") {girl : GirlScout} (named : girl.id ≠ "") :
    let start := (GirlScout.mapping.performAll (BoyScout.mapping.performAll connection [.create boy]).2 [.create girl]).2
    start.autocommit = true ∧ ∃ rows, Holds start rows ∧ (∃ row ∈ rows .boyScout, hasId boy.id row = true) ∧
      ∃ row ∈ rows .girlScout, hasId girl.id row = true := by
  obtain ⟨-, idle, holds⟩ := BoyScout.placement.leaves_create fresh.idle fresh.holds present compact.few rfl
    fun _ _ => rfl
  have none : applyAll (fun _ => []) (BoyScout.placement.writes (.create boy)) .girlScout = [] :=
    BoyScout.placement.applyAll_elsewhere _ _ (by decide) (by decide)
  obtain ⟨-, closed, held⟩ := GirlScout.placement.leaves_create idle holds named girl.few
    (congrArg (List.filter _) none) fun _ member => absurd member List.not_mem_nil
  refine ⟨closed, _, held, ⟨BoyScout.mapping.row boy, ?_, hasId_row present _⟩,
    GirlScout.mapping.row girl, ?_, hasId_row named _⟩
  · rw [GirlScout.placement.applyAll_elsewhere _ _ (by decide) List.not_mem_nil]
    have own := BoyScout.placement.applyAll_create_parent (fun _ => []) boy
    exact own ▸ List.mem_cons_self
  · have own := GirlScout.placement.applyAll_create_parent
      (applyAll (fun _ => []) (BoyScout.placement.writes (.create boy))) girl
    exact own ▸ List.mem_cons_self

end EntityStore
