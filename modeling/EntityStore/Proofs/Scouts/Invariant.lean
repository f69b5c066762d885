import EntityStore.Proofs.Atomicity
import EntityStore.Proofs.Scouts.Fresh
import EntityStore.Proofs.Scouts.Transactions
import EntityStore.Proofs.Watching

/-! What is true of every database that the calls of the mapper lead to, whether they succeed or fail, and whatever
store around the engine makes them fail. -/

namespace EntityStore
open Engine

namespace Engine.Connection
variable {connection : Connection}

theorem query_reads (steady : connection.Steady) {statement : Statement} (reads : statement.reads = true)
    (parameters : List Value) : (connection.query statement parameters).2 = connection := by
  have relation (table : Table) (bound : List Value) :
      connection.database.target connection.foreignKeys statement bound ≠ .ok (.writes table) := by
    cases statement with
    | select name columns key order | probe name key =>
      intro found
      unfold Database.target at found
      dsimp only at found
      generalize connection.database.source _ _ = source at found
      cases source <;> cases found
    | insert _ _ | insertRows _ _ _ | update _ _ _ | delete _ _ => cases reads
  rw [query_connection]
  unfold run runText
  dsimp only
  split
  · rfl
  · exact steady.statementEnd
  · rename_i table prepared
    exact absurd (prepare_target prepared) (relation table _)

end Engine.Connection

/-- A database with the tables of the scouts, whose rows keep to something. -/
def Engine.Database.Upholds (database : Database) (keeps : Rows → Prop) : Prop :=
  ∃ rows, keeps rows ∧ ∃ contents : Contents, database = contents.database ∧
    ∀ t, Stores t.columns t.key (contents t) (rows t)

/-- So do the rows that a rollback would bring back. -/
structure Engine.Connection.Upholds (connection : Connection) (keeps : Rows → Prop) : Prop where
  steady : connection.Steady
  current : connection.database.Upholds keeps
  saved : ∀ database ∈ connection.saved, database.Upholds keeps

namespace Engine.Connection
variable {connection after : Connection} {keeps : Rows → Prop}

theorem Upholds.holds (upholds : connection.Upholds keeps) : ∃ rows, Holds connection rows ∧ keeps rows := by
  obtain ⟨rows, kept, stored⟩ := upholds.current
  exact ⟨rows, ⟨upholds.steady, stored⟩, kept⟩

theorem Upholds.of_holds {rows : Rows} (holds : Holds connection rows) (kept : keeps rows)
    (saved : ∀ database ∈ connection.saved, database.Upholds keeps) : connection.Upholds keeps :=
  ⟨holds.steady, ⟨rows, kept, holds.stored⟩, saved⟩

theorem Upholds.of_idle {rows : Rows} (idle : connection.autocommit = true) (holds : Holds connection rows)
    (kept : keeps rows) : connection.Upholds keeps := by
  refine .of_holds holds kept fun database saved => ?_
  rw [Option.isNone_iff_eq_none.mp idle] at saved
  cases saved

theorem Steady.commit_error (steady : connection.Steady) {error : EngineError}
    (failed : connection.commit = (.error error, after)) : after = connection := by
  unfold Connection.commit at failed
  repeat' split at failed
  all_goals cases failed
  · exact steady.statementEnd
  · rfl

theorem Upholds.undone (upholds : connection.Upholds keeps) : connection.undone.Upholds keeps := by
  unfold Connection.undone Connection.rollback
  split
  · exact upholds
  cases saved : connection.saved with
  | none => exact upholds.steady.statementEnd.symm ▸ upholds
  | some database =>
    exact ⟨upholds.steady.ended _ _ _, upholds.saved database saved, fun _ impossible => by cases impossible⟩

end Engine.Connection

/-- No transaction is open, and the rows are sound. -/
def Orderly (connection : Connection) : Prop :=
  connection.autocommit = true ∧ ∃ rows, Holds connection rows ∧ Sound rows

namespace Placement
variable {E : Type} {mapping : Mapping E} (placement : Placement mapping)

section Kept
variable (call : Call E) {keeps : Rows → Prop}
  (step : ∀ rows, ∀ write ∈ placement.writes call, keeps rows → write.Allowed rows → keeps (write.apply rows))

include placement step

/-- What the writes of a call keep is kept by every request that is planned for it, whatever the answer is. -/
theorem upholds_effect {request : Request} {response : request.Response} {before after : Connection}
    (planned : request.IsPlanned (mapping.plan call)) (effect : Effect request response before after)
    (upholds : before.Upholds keeps) : after.Upholds keeps := by
  obtain ⟨rows, holds, kept⟩ := upholds.holds
  have executed (statement : Statement) (parameters : List Value)
      (planned : (Request.execute statement parameters).IsPlanned (mapping.plan call)) :
      (before.execute statement parameters).2.Upholds keeps := by
    have member : (statement, parameters) ∈ mapping.writes call := planned
    rw [placement.writes_eq] at member
    obtain ⟨write, known, same⟩ := List.mem_map.mp member
    cases same
    have saved := (Connection.execute_within upholds.steady.statementEnd write.statement write.parameters).saved
    rcases holds.write (placement.proper call write known) with ⟨count, left, ran, allowed, held⟩ | ⟨left, ran, -, held⟩
    · rw [ran] at saved ⊢
      exact .of_holds held (step rows write known kept allowed) (saved ▸ upholds.saved)
    · rw [ran] at saved ⊢
      exact .of_holds held kept (saved ▸ upholds.saved)
  have queried (statement : Statement) (parameters : List Value)
      (planned : (Request.query statement parameters).IsPlanned (mapping.plan call)) :
      (before.query statement parameters).2.Upholds keeps := by
    rw [Connection.query_reads holds.steady (mapping.queries_read call _ planned)]
    exact upholds
  cases request with
  | begin =>
    rcases response with error | _
    · cases effect
      exact upholds
    · rw [Connection.beginWriting_ok effect]
      refine .of_holds holds.opened kept fun database same => ?_
      cases same
      exact upholds.current
  | execute statement parameters =>
    rcases response with error | _
    · rcases effect with rfl | rfl
      · exact upholds
      · exact executed statement parameters planned
    · obtain ⟨count, ran⟩ := effect
      have left := executed statement parameters planned
      rw [ran] at left
      exact left
  | query statement parameters =>
    rcases response with error | limit
    · rcases effect with rfl | rfl
      · exact upholds
      · exact queried statement parameters planned
    · obtain ⟨found, ran⟩ := effect
      have left := queried statement parameters planned
      rw [ran] at left
      exact left
  | commit =>
    rcases response with error | _
    · rcases effect with rfl | ⟨cause, failed⟩
      · exact upholds
      · rw [holds.steady.commit_error failed]
        exact upholds
    · rw [Connection.commit_eq effect]
      exact ⟨holds.steady.ended _ _ _, upholds.current, fun _ impossible => by cases impossible⟩
  | rollback =>
    cases effect
    exact upholds.undone
  | advance _ | scan | close | check =>
    cases effect
    exact upholds

theorem upholds_after {σ : Type} {store : Store σ} {connection : σ → Connection} (wraps : Wraps store connection)
    {exchanges : List Exchange} (planned : ∀ exchange ∈ exchanges, exchange.request.IsPlanned (mapping.plan call))
    {state : σ} (upholds : (connection state).Upholds keeps) :
    (connection (store.after exchanges state)).Upholds keeps := by
  induction exchanges generalizing state with
  | nil => exact upholds
  | cons exchange rest ih =>
    obtain ⟨here, later⟩ := List.forall_mem_cons.mp planned
    exact ih later (placement.upholds_effect call step here (wraps exchange.request state) upholds)

theorem perform_keeps {σ : Type} {store : Store σ} {connection : σ → Connection} (wraps : Wraps store connection)
    {state : σ} (idle : (connection state).autocommit = true) {rows : Rows} (holds : Holds (connection state) rows)
    (kept : keeps rows) :
    (connection (mapping.perform store call state).2.2).autocommit = true ∧
      ∃ rows, Holds (connection (mapping.perform store call state).2.2) rows ∧ keeps rows := by
  have closed := perform_idle mapping wraps call state idle
  have planned := (mapping.keeps_operation call).exchanges store state
  have left := placement.upholds_after call step wraps planned (.of_idle idle holds kept)
  rw [← Procedure.run_after] at left
  refine ⟨closed, ?_⟩
  rw [(mapping.perform_eq store call state).2]
  exact left.holds

end Kept

include placement

theorem perform_orderly {σ : Type} {store : Store σ} {connection : σ → Connection} (wraps : Wraps store connection)
    (call : Call E) {state : σ} (orderly : Orderly (connection state)) :
    Orderly (connection (mapping.perform store call state).2.2) := by
  obtain ⟨idle, rows, holds, sound⟩ := orderly
  refine placement.perform_keeps call (fun rows write member sound allowed => ?_) wraps idle holds sound
  exact sound.step (placement.proper call write member) allowed

end Placement

def Engine.Database.rowsOf? (database : Database) (name : String) : Option (List Row) :=
  (database.table? name).map fun table => table.entries.map (·.values)

theorem Holds.rowsOf? {connection : Connection} {rows : Rows} (holds : Holds connection rows) :
    ∃ others : Rows, ∀ t, connection.database.rowsOf? t.name = some (others t) ∧ (others t).Perm (rows t) := by
  obtain ⟨contents, same, stores⟩ := holds.stored
  refine ⟨fun t => (contents t).map (·.values), fun t => ⟨?_, (stores t).same⟩⟩
  rw [same, Database.rowsOf?, contents.table?_name]
  rfl

/-- How the rows of one table of the scouts are kept, given those of their parents. -/
structure ScoutTable.Keeps (t : ScoutTable) (parents rows : List Row) : Prop where
  permitted : ∀ row ∈ rows, List.Forall₂ t.Permits t.columnNames row
  identified : ∀ row ∈ rows, ∃ id, id ≠ "" ∧ cell row 0 = .text id
  unique : t ∉ ScoutTable.collections → (rows.map (cell · 0)).Nodup
  numbered : t ∈ ScoutTable.collections → ∀ id : String, ∃ count ≤ variableLimit,
    ((rows.filter fun row => cell row 0 = .text id).map (cell · 1)).Perm
      ((List.range count).map fun place : Nat => .integer (Int64.ofInt place))
  owned : t ∈ ScoutTable.collections → ∀ row ∈ rows, cell row 0 ∈ parents.map (cell · 0)

/-- All tables are there, and their rows are kept in this way. -/
def WellStored (database : Database) : Prop :=
  ∃ rows : Rows, ∀ t, database.rowsOf? t.name = some (rows t) ∧ t.Keeps (rows .boyScout) (rows t)

/-- The connections that calls can lead to, each of them through some store around the engine. -/
inductive Reachable : Connection → Prop where
  | fresh {connection : Connection} (fresh : Fresh connection) : Reachable connection
  | boy {σ : Type} {store : Store σ} {connection : σ → Connection} (wraps : Wraps store connection)
      (call : Call BoyScout) {state : σ} (reached : Reachable (connection state)) :
      Reachable (connection (BoyScout.mapping.perform store call state).2.2)
  | girl {σ : Type} {store : Store σ} {connection : σ → Connection} (wraps : Wraps store connection)
      (call : Call GirlScout) {state : σ} (reached : Reachable (connection state)) :
      Reachable (connection (GirlScout.mapping.perform store call state).2.2)

theorem Reachable.orderly {connection : Connection} (reached : Reachable connection) : Orderly connection := by
  induction reached with
  | fresh fresh => exact ⟨fresh.idle, _, fresh.holds, .initial⟩
  | boy wraps call _ ih => exact BoyScout.placement.perform_orderly wraps call ih
  | girl wraps call _ ih => exact GirlScout.placement.perform_orderly wraps call ih

theorem map_elementRows (id : Value) (start : Nat) (values : List Value) :
    (elementRows id start values).map (cell · 1) =
      (List.range' start values.length).map fun place => .integer (Int64.ofInt place) := by
  induction values generalizing start with
  | nil => rfl
  | cons value rest ih =>
    rw [elementRows, List.map_cons, ih, List.length_cons, List.range'_succ, List.map_cons]
    rfl

theorem Sound.keeps {rows : Rows} (sound : Sound rows) {t : ScoutTable} {parents others : List Row}
    (distinct : t.key.Distinct others) (owners : (rows .boyScout).Perm parents) (same : (rows t).Perm others) :
    t.Keeps parents others where
  permitted row member := by
    have accepted := sound.accepted t row (same.mem_iff.mpr member)
    rw [ScoutTable.columnNames, List.forall₂_map_left_iff]
    exact accepted.imp fun _ _ accepts => accepts.permitted
  identified row member := by
    obtain ⟨id, has⟩ := sound.identified t row (same.mem_iff.mpr member)
    exact ⟨id, hasId_iff.mp has⟩
  unique parent := by
    rw [ScoutTable.key_parent parent] at distinct
    refine List.pairwise_map.mpr (distinct.imp_of_mem fun first second apart equal => apart ?_)
    intro index only
    obtain ⟨id, has⟩ := sound.identified t _ (same.mem_iff.mpr second)
    rw [List.mem_singleton.mp only, equal, (hasId_iff.mp has).2]
    exact (Value.same_text _ _).mpr rfl
  numbered child id := by
    obtain ⟨values, few, numbered⟩ := sound.numbered t child id
    have chosen : others.filter (fun row => cell row 0 = .text id) = others.filter (hasId id) := by
      refine List.filter_congr fun row member => ?_
      obtain ⟨known, has⟩ := sound.identified t row (same.mem_iff.mpr member)
      obtain ⟨-, holds⟩ := hasId_iff.mp has
      rw [hasId_unique has, holds]
      simp [eq_comm]
    refine ⟨values.length, by omega, ?_⟩
    rw [chosen, List.range_eq_range', ← map_elementRows (Codec.encodeText id)]
    exact ((same.symm.filter _).trans numbered).map _
  owned child row member := by
    have inside := same.mem_iff.mpr member
    obtain ⟨id, has⟩ := sound.identified t row inside
    obtain ⟨parent, known, found⟩ := sound.owned t child id row inside has
    rw [(hasId_iff.mp has).2, ← (hasId_iff.mp found).2]
    exact List.mem_map_of_mem (owners.mem_iff.mp known)

theorem reachable_wellStored {connection : Connection} (reached : Reachable connection) :
    WellStored connection.database := by
  obtain ⟨-, rows, holds, sound⟩ := reached.orderly
  obtain ⟨others, listed⟩ := holds.rowsOf?
  refine ⟨others, fun t => ⟨(listed t).1, ?_⟩⟩
  have distinct := (holds.distinct t).perm (listed t).2.symm
  exact sound.keeps distinct (listed .boyScout).2.symm (listed t).2.symm

/-- A scout whose badges replace none in a store that cancels the token after the badges and spoils the rollback. -/
theorem reachable_wellStored_faulty :
    let fresh := { Connection.ofDatabase (Contents.database fun _ => []) with knowsTables := true }
    let start := Attached.ofConnection fresh .live
    let scout : BoyScout := { id := "s-1", badges := [.camping, .knots], bigUnsignedInt := 7 }
    let created := BoyScout.mapping.perform Attached.store (.create scout) start
    let faults : Faults := ⟨none, some "boy_scout_badges", false, true⟩
    let failed := BoyScout.mapping.perform faults.store (.update { scout with badges := [.ballet] } .all) created.2.2
    Reachable failed.2.2.connection ∧ WellStored failed.2.2.connection.database := by
  intro fresh start scout created faults failed
  have made : created = BoyScout.mapping.perform Attached.store (.create scout) start := rfl
  have ended : failed =
      BoyScout.mapping.perform faults.store (.update { scout with badges := [.ballet] } .all) created.2.2 := rfl
  have opened : Reachable (Attached.connection start) := .fresh Fresh.memory
  have stored := Reachable.boy Attached.wraps (.create scout) opened
  rw [← made] at stored
  have reached := Reachable.boy (Faults.wraps faults) (.update { scout with badges := [.ballet] } .all) stored
  rw [← ended] at reached
  exact ⟨reached, reachable_wellStored reached⟩

end EntityStore
