import EntityStore.Proofs.Protocol
import EntityStore.Proofs.Scouts.Kinds
import EntityStore.Proofs.Scouts.Transactions

/-! What the bodies of the operations come to in an open transaction on a migrated database, by what the id in question
shows. -/

namespace EntityStore
open Engine ScoutWrite

/-- A call under a live token has the outcome of its operation, and leaves what that leaves. -/
theorem Mapping.perform_live {E : Type} {mapping : Mapping E} {call : Call E} {connection after : Connection}
    {last : Cursor} {outcome : Except CrudError (Reply E)}
    (ran : (mapping.operation call).result Attached.store (.live connection (.ofRows [])) = (outcome, .live after last)) :
    (mapping.perform Attached.store call (.ofConnection connection .live)).1 = outcome ∧
      (mapping.perform Attached.store call (.ofConnection connection .live)).2.2 = .live after last := by
  obtain ⟨same, ended⟩ := mapping.perform_eq Attached.store call (.live connection (.ofRows []))
  rw [ran] at same ended
  exact ⟨same, ended⟩

namespace Placement
variable {E : Type} {mapping : Mapping E} {placement : Placement mapping} {connection : Connection} {rows : Rows}

/-- The first write is refused, and with it the whole body. -/
theorem insertEntity_refused (placement : Placement mapping) {entity : E} {error : EngineError} {after : Connection}
    (refused : connection.execute (.insert placement.parent.name placement.parent.columnNames)
      (Codec.encodeText (mapping.id entity) :: mapping.encodeColumns entity) = (.error error, after)) (cursor : Cursor) :
    (mapping.insertEntity entity).result Attached.store (.live connection cursor) =
      (.error (.statement (.engine error)), .live after cursor) := by
  rw [Mapping.insertEntity_eq, placement.writes_eq, writes, List.map_cons, Operation.executeAll, Operation.result_bind]
  simp only [toWrite, statement, parameters]
  rw [Operation.result_execute_error refused]

theorem updateEntity_none (placement : Placement mapping) {entity : E}
    (absent : (rows placement.parent).filter (hasId (mapping.id entity)) = []) (holds : Holds connection rows)
    (mask : FieldMask) (cursor : Cursor) :
    (mapping.updateEntity entity mask).result Attached.store (.live connection cursor) =
      (.error (mapping.notFound (mapping.id entity)), .live connection ⟨[], none⟩) := by
  have found := holds.query_probe placement.parent (mapping.id entity)
  rw [absent, ← placement.idColumn_eq.1, ← placement.table] at found
  have probed : (Operation.query mapping.schema.probe [Codec.encodeText (mapping.id entity)]).result Attached.store
      (.live connection cursor) = (.ok 0, .live connection ⟨[], none⟩) := Operation.result_query found
  rw [Mapping.updateEntity, Operation.result_bind, probed]
  dsimp only
  rw [Operation.result_bind, Operation.result_advance_end]
  rfl

theorem updateEntity_some (placement : Placement mapping) {entity : E} {row : Row}
    (stored : (rows placement.parent).filter (hasId (mapping.id entity)) = [row]) (holds : Holds connection rows)
    (mask : FieldMask) (cursor : Cursor) :
    (mapping.updateEntity entity mask).result Attached.store (.live connection cursor) =
      (Operation.executeAll ((placement.writes (.update entity mask)).map toWrite)).result Attached.store
        (.live connection ⟨[], some [.null]⟩) := by
  have found := holds.query_probe placement.parent (mapping.id entity)
  rw [stored, ← placement.idColumn_eq.1, ← placement.table] at found
  have probed : (Operation.query mapping.schema.probe [Codec.encodeText (mapping.id entity)]).result Attached.store
      (.live connection cursor) = (.ok (0 + 1), .live connection ⟨[[.null]], none⟩) := Operation.result_query found
  rw [← placement.writes_eq, ← Mapping.updateEntity_writes, Mapping.updateEntity, Operation.result_bind, probed]
  dsimp only
  rw [Operation.result_bind, Operation.result_advance]
  dsimp only
  rw [Operation.result_bind, Operation.result_close]

theorem readEntity_none (placement : Placement mapping) {id : String}
    (absent : (rows placement.parent).filter (hasId id) = []) (holds : Holds connection rows) (cursor : Cursor) :
    (mapping.readEntity id).result Attached.store (.live connection cursor) =
      (.error (mapping.notFound id), .live connection ⟨[], none⟩) := by
  have found := holds.query_parent placement.parental id
  rw [absent, ← placement.table, ← placement.names, ← placement.idColumn_eq.1] at found
  have queried : (Operation.query mapping.schema.select [Codec.encodeText id]).result Attached.store
      (.live connection cursor) = (.ok 0, .live connection ⟨[], none⟩) := Operation.result_query found
  rw [Mapping.readEntity, Operation.result_bind, queried]
  dsimp only
  rw [Operation.result_bind, Operation.result_advance_end]
  rfl

/-- The elements of a whole entity are read back one collection after the other, up to the first that cannot be read. -/
theorem result_readCollections {children : List (String × ScoutTable)} {written entity : E}
    (holds : Holds connection rows) (id : String) (inside : ∀ child ∈ children, child.2 ∈ ScoutTable.collections)
    (shows : ∀ child ∈ children, ((rows child.2).filter (hasId id)).Perm
      (elementRows (Codec.encodeText id) 0 (placement.elements written child.2)))
    (few : ∀ child ∈ children, (placement.elements written child.2).length * 3 ≤ variableLimit) (index : Nat)
    (cursor : Cursor) :
    ∃ last, (mapping.readCollections (Codec.encodeText id) entity index
        (children.map fun child => ⟨child.1, child.2.name⟩)).result Attached.store (.live connection cursor) =
      ((mapping.decodeParts entity index (children.map fun child => placement.elements written child.2)).mapError .codec,
        .live connection last) := by
  induction children generalizing entity index cursor with
  | nil => exact ⟨cursor, rfl⟩
  | cons child rest ih =>
    obtain ⟨insideHere, insideRest⟩ := List.forall_mem_cons.mp inside
    obtain ⟨showsHere, showsRest⟩ := List.forall_mem_cons.mp shows
    obtain ⟨fewHere, fewRest⟩ := List.forall_mem_cons.mp few
    have limit : variableLimit = 32766 := rfl
    obtain ⟨values, named⟩ : ∃ values, placement.elements written child.2 = values := ⟨_, rfl⟩
    rw [named] at showsHere fewHere
    have found := holds.query_collection insideHere (by omega) showsHere
    have queried : (Operation.query (Collection.select ⟨child.1, child.2.name⟩) [Codec.encodeText id]).result
        Attached.store (.live connection cursor) =
          (.ok values.length, .live connection ⟨values.map ([·]), none⟩) := by
      have count : (values.map fun value => [value]).length = values.length := List.length_map _
      rw [← count]
      exact Operation.result_query found
    rw [List.map_cons, List.map_cons, named, Mapping.decodeParts, Mapping.readCollections, Operation.result_bind, queried]
    dsimp only
    rw [Operation.result_bind, Operation.result_collect]
    dsimp only
    rw [Operation.result_bind, Operation.result_close]
    dsimp only
    rw [List.reverse_nil, List.nil_append, Operation.result_bind]
    cases step : mapping.decodeCollection entity index values with
    | error error => exact ⟨⟨[], none⟩, rfl⟩
    | ok next => exact ih insideRest showsRest fewRest (index + 1) ⟨[], none⟩

/-- A read that finds a row comes to what is read of the entity that the rows show. -/
theorem Shows.readEntity {id : String} {entity : E} (shows : placement.Shows rows id (some entity))
    (holds : Holds connection rows) (few : placement.Few entity) (cursor : Cursor) :
    ∃ last, (mapping.readEntity id).result Attached.store (.live connection cursor) =
      ((placement.decoded entity).mapError .codec, .live connection last) := by
  have found := holds.query_parent placement.parental id
  rw [shows.parents, ← placement.table, ← placement.names, ← placement.idColumn_eq.1] at found
  have queried : (Operation.query mapping.schema.select [Codec.encodeText id]).result Attached.store
      (.live connection cursor) = (.ok (0 + 1), .live connection ⟨[mapping.row entity], none⟩) :=
    Operation.result_query found
  rw [Mapping.readEntity, Placement.decoded, Operation.result_bind, queried]
  dsimp only
  rw [Operation.result_bind, Operation.result_advance]
  dsimp only
  rw [Operation.result_bind, Operation.result_scan]
  dsimp only
  rw [Operation.result_bind]
  cases step : mapping.decodeRow (mapping.row entity) with
  | error error => exact ⟨⟨[], some (mapping.row entity)⟩, rfl⟩
  | ok bare =>
    rw [Operation.result_ofCodec rfl]
    dsimp only
    rw [Operation.result_bind, Operation.result_close, placement.collections]
    exact result_readCollections holds id placement.inside shows.elements few 0 ⟨[], some (mapping.row entity)⟩

theorem refused {α : Type} {call : Call E} {body : Operation α} {left : Connection} {last : Cursor} {error : CrudError}
    (reply : α → Reply E) (idle : connection.autocommit = true) (holds : Holds connection rows)
    (same : mapping.operation call = do return reply (← Operation.inTransaction body))
    (failed : body.result Attached.store (.live connection.opened (.ofRows [])) = (.error error, .live left last))
    (within : Connection.Within connection.opened left) :
    ∃ after, (mapping.operation call).result Attached.store (.live connection (.ofRows [])) =
        (.error error, .live after last) ∧
      after.autocommit = true ∧ Holds after rows := by
  obtain ⟨after, undone, closed, held⟩ := holds.undone idle failed within
  refine ⟨after, ?_, closed, held⟩
  rw [same]
  refine (Operation.result_bind _ _ _ _).trans ?_
  rw [undone]

theorem refused_perform {α : Type} {call : Call E} {body : Operation α} {left : Connection} {last : Cursor}
    {error : CrudError} (reply : α → Reply E) (idle : connection.autocommit = true) (holds : Holds connection rows)
    (same : mapping.operation call = do return reply (← Operation.inTransaction body))
    (failed : body.result Attached.store (.live connection.opened (.ofRows [])) = (.error error, .live left last))
    (within : Connection.Within connection.opened left) :
    let ran := mapping.perform Attached.store call (.ofConnection connection .live)
    ran.1 = .error error ∧ ran.2.2.connection.autocommit = true ∧ Holds ran.2.2.connection rows := by
  obtain ⟨after, ran, closed, held⟩ := refused reply idle holds same failed within
  obtain ⟨outcome, ended⟩ := Mapping.perform_live ran
  dsimp only
  rw [outcome, ended]
  exact ⟨rfl, closed, held⟩

/-- A call is done where it leaves the rows that its writes make, and no transaction open. -/
def Done (placement : Placement mapping) (connection : Connection) (rows : Rows) (call : Call E) (reply : Reply E) :
    Prop :=
  ∃ after last, (mapping.operation call).result Attached.store (.live connection (.ofRows [])) =
      (.ok reply, .live after last) ∧
    after.autocommit = true ∧ Holds after (applyAll rows (placement.writes call))

theorem Done.perform {call : Call E} {reply : Reply E} (done : placement.Done connection rows call reply) :
    let ran := mapping.perform Attached.store call (.ofConnection connection .live)
    ran.1 = .ok reply ∧ ran.2.2.connection.autocommit = true ∧
      Holds ran.2.2.connection (applyAll rows (placement.writes call)) := by
  obtain ⟨after, last, ran, closed, held⟩ := done
  obtain ⟨outcome, ended⟩ := Mapping.perform_live ran
  dsimp only
  rw [outcome, ended]
  exact ⟨rfl, closed, held⟩

section Done
variable (placement)

theorem done {α : Type} {call : Call E} {body : Operation α} {value : α} {left : Connection} {last : Cursor}
    (reply : α → Reply E) (idle : connection.autocommit = true) (holds : Holds connection rows)
    (same : mapping.operation call = do return reply (← Operation.inTransaction body))
    (ran : body.result Attached.store (.live connection.opened (.ofRows [])) = (.ok value, .live left last))
    (held : Holds left (applyAll rows (placement.writes call))) (opened : left.autocommit = false) :
    placement.Done connection rows call (reply value) := by
  obtain ⟨after, committed, closed, final⟩ := holds.committed idle ran held opened
  refine ⟨after, last, ?_, closed, final⟩
  rw [same]
  refine (Operation.result_bind _ _ _ _).trans ?_
  rw [committed]
  rfl

theorem done_create (idle : connection.autocommit = true) (holds : Holds connection rows) {entity : E}
    (allowed : AllowedAll rows (placement.writes (.create entity))) :
    placement.Done connection rows (.create entity) .done := by
  obtain ⟨left, ran, held, still⟩ :=
    holds.opened.executeAll (placement.proper (.create entity)) allowed rfl (.ofRows [])
  rw [← placement.writes_eq, ← Mapping.insertEntity_eq] at ran
  exact placement.done (fun _ => .done) idle holds rfl ran held still

theorem done_update (idle : connection.autocommit = true) (holds : Holds connection rows) {entity : E} {row : Row}
    (stored : (rows placement.parent).filter (hasId (mapping.id entity)) = [row]) {mask : FieldMask}
    (allowed : AllowedAll rows (placement.writes (.update entity mask))) :
    placement.Done connection rows (.update entity mask) .done := by
  obtain ⟨left, ran, held, still⟩ :=
    holds.opened.executeAll (placement.proper (.update entity mask)) allowed rfl ⟨[], some [.null]⟩
  rw [← placement.updateEntity_some stored holds.opened mask (.ofRows [])] at ran
  exact placement.done (fun _ => .done) idle holds rfl ran held still

theorem done_delete (idle : connection.autocommit = true) (holds : Holds connection rows) (id : String) :
    placement.Done connection rows (.delete id) .done := by
  obtain ⟨left, ran, held, still⟩ :=
    holds.opened.executeAll (placement.proper (.delete id)) (placement.delete_allowed rows id) rfl (.ofRows [])
  rw [← placement.writes_eq, ← Mapping.deleteEntity_eq] at ran
  exact placement.done (fun _ => .done) idle holds rfl ran held still

end Done

theorem Shows.done_read {id : String} {entity found : E} (shows : placement.Shows rows id (some entity))
    (few : placement.Few entity) (idle : connection.autocommit = true) (holds : Holds connection rows)
    (decoded : placement.decoded entity = .ok found) : placement.Done connection rows (.read id) (.found found) := by
  obtain ⟨last, read⟩ := shows.readEntity holds.opened few (.ofRows [])
  rw [decoded] at read
  exact placement.done .found idle holds rfl read holds.opened rfl

end Placement
end EntityStore
