import EntityStore.Proofs.Cancellation
import EntityStore.Proofs.Plan
import EntityStore.Proofs.Scouts.Roster

/-! The order in which calls issue their statements. Each call has an agenda, a list of statements that the call alone
determines, and whatever the store answers it works off the agenda from the front: it skips nothing, adds nothing and
commits only when nothing is left. -/

namespace EntityStore
variable {E σ : Type}

def Request.isStatement : Request → Bool
  | .execute .. | .query .. => true
  | .begin | .advance _ | .scan | .close | .commit | .rollback | .check => false

/-- The statements among some exchanges, with their parameters. -/
def Exchange.statements (exchanges : List Exchange) : List Request :=
  (exchanges.map (·.request)).filter (·.isStatement)

/-- The text of one insert for a number of elements, of which there must be one. -/
def Collection.batch? (collection : Collection) (count : Nat) : Option String :=
  Statement.tuples? (Statement.opening collection.table Collection.columnNames) (Statement.tuple 3) count

namespace Mapping
variable (mapping : Mapping E)

/-- One insert of all elements with their places from zero, unless there are none. -/
def batch (collection : Collection) (id : Value) (values : List Value) : List Request :=
  if values.isEmpty then []
  else [.execute (collection.insert (values.length - 1))
    (values.zipIdx.flatMap fun (value, place) => [id, .integer (Int64.ofInt place), value])]

/-- The statements of a call, in their order. -/
def agenda : Call E → List Request
  | .create entity =>
      let id := Codec.encodeText (mapping.id entity)
      .execute mapping.schema.insert (id :: mapping.encodeColumns entity) ::
        mapping.schema.collections.zipIdx.flatMap fun (collection, index) =>
          batch collection id (mapping.encodeCollection entity index)
  | .read id =>
      let id := Codec.encodeText id
      .query mapping.schema.select [id] ::
        mapping.schema.collections.map fun collection => .query collection.select [id]
  | .update entity mask =>
      let id := Codec.encodeText (mapping.id entity)
      let columns := mapping.schema.columns
      let update := Statement.update mapping.schema.table (columns.map (·.name)) mapping.schema.idColumn
      .query mapping.schema.probe [id] ::
        ((if columns.isEmpty then []
          else [.execute update (maskedParameters mask columns (mapping.encodeColumns entity) ++ [id])]) ++
        mapping.schema.collections.zipIdx.flatMap fun (collection, index) =>
          if mask.included collection.field then
            .execute collection.delete [id] :: batch collection id (mapping.encodeCollection entity index)
          else [])
  | .delete id =>
      let id := Codec.encodeText id
      (mapping.schema.collections.map fun collection => .execute collection.delete [id]) ++
        [.execute mapping.schema.delete [id]]

/-- How the exchanges of a call go with its agenda. -/
structure KeepsAgenda (call : Call E) (exchanges : List Exchange) : Prop where
  /-- The statements are the first ones of the agenda. -/
  inOrder : Exchange.statements exchanges <+: mapping.agenda call
  /-- Nothing is left when the commit is reached. -/
  whole : (∃ exchange ∈ exchanges, exchange.request = .commit) → Exchange.statements exchanges = mapping.agenda call
  /-- Rows of a collection are inserted in one batch, and a batch has at least one of them. -/
  batched : ∀ table columns more parameters,
    .execute (.insertRows table columns more) parameters ∈ Exchange.statements exchanges →
    ∃ entity ∈ call.entity?, ∃ collection index, (collection, index) ∈ mapping.schema.collections.zipIdx ∧
      0 < (mapping.encodeCollection entity index).length ∧
      collection.batch? (mapping.encodeCollection entity index).length =
        some (Statement.insertRows table columns more).text

end Mapping

namespace Exchange

theorem statements_append (first rest : List Exchange) :
    statements (first ++ rest) = statements first ++ statements rest := by
  simp only [statements, List.map_append, List.filter_append]

theorem statements_eq_nil {exchanges : List Exchange}
    (none : ∀ exchange ∈ exchanges, exchange.request.isStatement = false) : statements exchanges = [] := by
  rw [statements, List.filter_eq_nil_iff, List.forall_mem_map]
  intro exchange member
  simp [none exchange member]

end Exchange

namespace Procedure

/-- Whatever the answers are, a procedure issues the statements of a list in their order. It may fail at any time, and
succeeds only when none is left. -/
inductive WorksOff : Procedure (Except CrudError α) → List Request → Prop where
  | done (value : α) : WorksOff (.done (.ok value)) []
  | failed (error : CrudError) (agenda : List Request) : WorksOff (.done (.error error)) agenda
  | statement {request : Request} {next : request.Response → Procedure (Except CrudError α)} {agenda : List Request}
      (issued : request.isStatement = true) (rest : ∀ response, WorksOff (next response) agenda) :
      WorksOff (.call request next) (request :: agenda)
  | other {request : Request} {next : request.Response → Procedure (Except CrudError α)} {agenda : List Request}
      (silent : request.isStatement = false) (rest : ∀ response, WorksOff (next response) agenda) :
      WorksOff (.call request next) agenda

/-- On any store the statements are the first ones of the list, and all of them where the procedure succeeds. -/
theorem WorksOff.statements {procedure : Procedure (Except CrudError α)} {agenda : List Request}
    (works : WorksOff procedure agenda) (store : Store σ) (state : σ) :
    Exchange.statements (procedure.exchanges store state) <+: agenda ∧
      ∀ value, (procedure.run store state).1 = .ok value →
        Exchange.statements (procedure.exchanges store state) = agenda := by
  induction works generalizing state with
  | done value => exact ⟨List.nil_prefix, fun _ _ => rfl⟩
  | failed error agenda => exact ⟨List.nil_prefix, fun _ impossible => by cases impossible⟩
  | @statement request next agenda issued rest ih =>
    obtain ⟨early, all⟩ := ih (store.answer request state).1 (store.answer request state).2
    have split : Exchange.statements ((Procedure.call request next).exchanges store state) =
        request :: Exchange.statements ((next (store.answer request state).1).exchanges store
          (store.answer request state).2) := List.filter_cons_of_pos issued
    rw [split]
    refine ⟨List.cons_prefix_cons.mpr ⟨rfl, early⟩, fun value succeeded => ?_⟩
    rw [all value succeeded]
  | @other request next agenda silent rest ih =>
    have split : Exchange.statements ((Procedure.call request next).exchanges store state) =
        Exchange.statements ((next (store.answer request state).1).exchanges store (store.answer request state).2) :=
      List.filter_cons_of_neg (by simp [silent])
    rw [split]
    exact ih _ _

end Procedure

namespace Operation
open Procedure (WorksOff)

variable {α β : Type}

theorem worksOff_bind {operation : Operation α} {next : α → Operation β} {first rest : List Request}
    (works : WorksOff operation.run first) (later : ∀ value, WorksOff (next value).run rest) :
    WorksOff (operation >>= next).run (first ++ rest) := by
  change WorksOff (Procedure.bind operation.run (ExceptT.bindCont next)) (first ++ rest)
  generalize operation.run = procedure at works
  induction works with
  | done value => exact later value
  | failed error agenda => exact .failed error _
  | statement issued _ ih => exact .statement issued ih
  | other silent _ ih => exact .other silent ih

theorem worksOff_after {operation : Operation α} {next : α → Operation β} {agenda : List Request}
    (silent : WorksOff operation.run []) (later : ∀ value, WorksOff (next value).run agenda) :
    WorksOff (operation >>= next).run agenda := worksOff_bind silent later

theorem worksOff_execute (statement : Statement) (parameters : List Value) :
    WorksOff (execute statement parameters).run [.execute statement parameters] := by
  refine .statement rfl fun response => ?_
  rcases response with error | _
  · exact .failed _ _
  · exact .done _

theorem worksOff_query (statement : Statement) (parameters : List Value) :
    WorksOff (query statement parameters).run [.query statement parameters] := by
  refine .statement rfl fun response => ?_
  rcases response with error | limit
  · exact .failed _ _
  · exact .done _

theorem worksOff_advance (limit : Nat) : WorksOff (advance limit).run [] := by
  refine .other rfl fun response => ?_
  rcases response with error | moved
  · exact .failed _ _
  · exact .done _

theorem worksOff_scan : WorksOff scan.run [] := by
  refine .other rfl fun response => ?_
  rcases response with error | row
  · exact .failed _ _
  · exact .done _

theorem worksOff_close : WorksOff close.run [] := .other rfl fun _ => .done ()

theorem worksOff_ofCodec (decoded : Except CodecError α) : WorksOff (ofCodec decoded).run [] := by
  cases decoded with
  | error error => exact .failed _ _
  | ok value => exact .done value

theorem worksOff_collect (limit : Nat) (read : List Value) : WorksOff (collect limit read).run [] := by
  induction limit using Nat.strongRecOn generalizing read with
  | ind limit ih =>
    rw [collect]
    refine worksOff_after (worksOff_advance limit) fun moved => ?_
    cases moved with
    | none => exact .done _
    | some rest =>
      refine worksOff_after worksOff_scan fun row => ?_
      exact worksOff_after (worksOff_ofCodec _) fun value => ih rest rest.isLt _

theorem worksOff_executeAll (writes : List Write) :
    WorksOff (executeAll writes).run (writes.map fun write => .execute write.1 write.2) := by
  induction writes with
  | nil => exact .done ()
  | cons write rest ih => exact worksOff_bind (worksOff_execute _ _) fun _ => ih

end Operation

namespace Mapping
open Procedure (WorksOff)

variable {mapping : Mapping E} {call : Call E}

theorem elementParameters_eq (id : Value) (start : Nat) (values : List Value) :
    elementParameters id start values =
      (values.zipIdx start).flatMap fun (value, place) => [id, .integer (Int64.ofInt place), value] := by
  induction values generalizing start with
  | nil => rfl
  | cons value rest ih => rw [elementParameters, ih, List.zipIdx_cons, List.flatMap_cons]; rfl

theorem batch_eq (collection : Collection) (id : Value) (values : List Value) :
    batch collection id values = (fill collection id values).map fun write => .execute write.1 write.2 := by
  cases values with
  | nil => rfl
  | cons first others =>
    rw [fill, elementParameters_eq]
    rfl

theorem fills_agenda (entity : E) (id : Value) (start : Nat) (collections : List Collection) :
    (mapping.fills entity id start collections).map (fun write => Request.execute write.1 write.2) =
      (collections.zipIdx start).flatMap fun (collection, index) =>
        batch collection id (mapping.encodeCollection entity index) := by
  induction collections generalizing start with
  | nil => rfl
  | cons collection rest ih =>
    rw [fills, List.map_append, ih, List.zipIdx_cons, List.flatMap_cons, ← batch_eq]

theorem refills_agenda (entity : E) (mask : FieldMask) (id : Value) (start : Nat) (collections : List Collection) :
    (mapping.refills entity mask id start collections).map (fun write => Request.execute write.1 write.2) =
      (collections.zipIdx start).flatMap fun (collection, index) =>
        if mask.included collection.field then
          .execute collection.delete [id] :: batch collection id (mapping.encodeCollection entity index)
        else [] := by
  induction collections generalizing start with
  | nil => rfl
  | cons collection rest ih =>
    rw [refills, List.map_append, ih, List.zipIdx_cons, List.flatMap_cons]
    dsimp only
    rw [batch_eq]
    split <;> rfl

theorem columnWrites_agenda (entity : E) (mask : FieldMask) (id : Value) :
    (mapping.columnWrites entity mask id).map (fun write => Request.execute write.1 write.2) =
      if mapping.schema.columns.isEmpty then []
      else [.execute (.update mapping.schema.table (mapping.schema.columns.map (·.name)) mapping.schema.idColumn)
        (maskedParameters mask mapping.schema.columns (mapping.encodeColumns entity) ++ [id])] := by
  unfold columnWrites Schema.update?
  split <;> rfl

theorem worksOff_insertEntity (entity : E) :
    WorksOff (mapping.insertEntity entity).run (mapping.agenda (.create entity)) := by
  have works := Operation.worksOff_executeAll (mapping.writes (.create entity))
  rw [← insertEntity_eq, writes, List.map_cons, fills_agenda] at works
  exact works

theorem worksOff_deleteEntity (id : String) : WorksOff (mapping.deleteEntity id).run (mapping.agenda (.delete id)) := by
  have works := Operation.worksOff_executeAll (mapping.writes (.delete id))
  rw [← deleteEntity_eq, writes, List.map_append, clears, List.map_map] at works
  exact works

theorem worksOff_updateEntity (entity : E) (mask : FieldMask) :
    WorksOff (mapping.updateEntity entity mask).run (mapping.agenda (.update entity mask)) := by
  have works := Operation.worksOff_executeAll (mapping.writes (.update entity mask))
  rw [← updateEntity_writes, writes, List.map_append, columnWrites_agenda, refills_agenda] at works
  refine Operation.worksOff_bind (Operation.worksOff_query _ _) fun limit => ?_
  refine Operation.worksOff_after (Operation.worksOff_advance limit) fun moved => ?_
  cases moved with
  | none => exact .failed _ _
  | some rest => exact Operation.worksOff_after Operation.worksOff_close fun _ => works

theorem worksOff_readCollections (id : Value) (entity : E) (index : Nat) (collections : List Collection) :
    WorksOff (mapping.readCollections id entity index collections).run
      (collections.map fun collection => .query collection.select [id]) := by
  induction collections generalizing entity index with
  | nil => exact .done entity
  | cons collection rest ih =>
    refine Operation.worksOff_bind (Operation.worksOff_query _ _) fun limit => ?_
    refine Operation.worksOff_after (Operation.worksOff_collect _ _) fun values => ?_
    refine Operation.worksOff_after Operation.worksOff_close fun _ => ?_
    exact Operation.worksOff_after (Operation.worksOff_ofCodec _) fun next => ih next (index + 1)

theorem worksOff_readEntity (id : String) : WorksOff (mapping.readEntity id).run (mapping.agenda (.read id)) := by
  refine Operation.worksOff_bind (Operation.worksOff_query _ _) fun limit => ?_
  refine Operation.worksOff_after (Operation.worksOff_advance limit) fun moved => ?_
  cases moved with
  | none => exact .failed _ _
  | some rest =>
    refine Operation.worksOff_after Operation.worksOff_scan fun row => ?_
    refine Operation.worksOff_after (Operation.worksOff_ofCodec _) fun entity => ?_
    exact Operation.worksOff_after Operation.worksOff_close fun _ => worksOff_readCollections _ entity 0 _

section Transacted
variable {α : Type} {store : Store σ} {body : Operation α} {state ended : σ} {outcome : Except CrudError α}
  {exchanges : List Exchange} {agenda : List Request}

theorem statements_around (store : Store σ) (body : Operation α) (opened : σ) {last : List Exchange}
    (silent : ∀ exchange ∈ last, exchange.request.isStatement = false) :
    Exchange.statements (⟨.begin, .ok ()⟩ :: (body.exchanges store opened ++ last)) =
      Exchange.statements (body.exchanges store opened) := by
  refine (Exchange.statements_append (body.exchanges store opened) last).trans ?_
  rw [Exchange.statements_eq_nil silent, List.append_nil]

theorem statements_transacted (transacted : Operation.Transacted store body state outcome ended exchanges) :
    ((∃ error, (store.answer .begin state).1 = .error error) ∧ Exchange.statements exchanges = []) ∨
      ∃ opened, store.answer .begin state = (.ok (), opened) ∧
        Exchange.statements exchanges = Exchange.statements (body.exchanges store opened) := by
  cases transacted with
  | @refused error opened begun => exact .inl ⟨⟨error, congrArg Prod.fst begun⟩, rfl⟩
  | @failed opened primary left answer ended begun ran undone =>
    exact .inr ⟨opened, begun, statements_around store body opened (by simp [Request.isStatement])⟩
  | @stopped opened value left error checked answer ended begun ran looked undone =>
    exact .inr ⟨opened, begun, statements_around store body opened (by simp [Request.isStatement])⟩
  | @uncommitted opened value left checked error tried answer ended begun ran looked kept undone =>
    exact .inr ⟨opened, begun, statements_around store body opened (by simp [Request.isStatement])⟩
  | @committed opened value left checked ended begun ran looked kept =>
    exact .inr ⟨opened, begun, statements_around store body opened (by simp [Request.isStatement])⟩

theorem inOrder_transacted (works : WorksOff body.run agenda)
    (transacted : Operation.Transacted store body state outcome ended exchanges) :
    Exchange.statements exchanges <+: agenda := by
  rcases statements_transacted transacted with ⟨-, none⟩ | ⟨opened, -, same⟩
  · rw [none]
    exact List.nil_prefix
  · rw [same]
    exact (works.statements store opened).1

theorem whole_transacted {good : α → Stage E → Prop} {stage : Stage E} (works : WorksOff body.run agenda)
    (follows : mapping.Follows good body.run stage)
    (transacted : Operation.Transacted store body state outcome ended exchanges)
    (reached : ∃ exchange ∈ exchanges, exchange.request = .commit) : Exchange.statements exchanges = agenda := by
  rcases follows.looked transacted with ⟨none, -⟩ | ⟨opened, value, left, _, answer, rest, -, ran, -, rfl, undone, -⟩
  · obtain ⟨exchange, member, commit⟩ := reached
    exact absurd commit (none exchange member)
  · have silent : ∀ exchange ∈ ⟨.check, .ok ()⟩ :: ⟨.commit, answer⟩ :: rest, exchange.request.isStatement = false := by
      refine List.forall_mem_cons.mpr ⟨rfl, List.forall_mem_cons.mpr ⟨rfl, fun exchange member => ?_⟩⟩
      rw [undone exchange member]
      rfl
    rw [List.cons_append, List.cons_append, List.append_assoc]
    refine (statements_around store body opened silent).trans ?_
    exact (works.statements store opened).2 value (congrArg Prod.fst ran)

end Transacted

section Batches
variable {table : String} {columns : List String} {more : Nat} {parameters : List Value}

theorem mem_batch {collection : Collection} {id : Value} {values : List Value}
    (member : .execute (.insertRows table columns more) parameters ∈ batch collection id values) :
    0 < values.length ∧ collection.batch? values.length = some (Statement.insertRows table columns more).text := by
  cases values with
  | nil => cases member
  | cons first others =>
    cases List.mem_singleton.mp member
    exact ⟨Nat.succ_pos _, rfl⟩

theorem mem_agenda (member : .execute (.insertRows table columns more) parameters ∈ mapping.agenda call) :
    ∃ entity ∈ call.entity?, ∃ collection index, (collection, index) ∈ mapping.schema.collections.zipIdx ∧
      0 < (mapping.encodeCollection entity index).length ∧
      collection.batch? (mapping.encodeCollection entity index).length =
        some (Statement.insertRows table columns more).text := by
  cases call with
  | create entity =>
    rcases List.mem_cons.mp member with same | member
    · cases same
    · obtain ⟨⟨collection, index⟩, inside, member⟩ := List.mem_flatMap.mp member
      exact ⟨entity, rfl, collection, index, inside, mem_batch member⟩
  | read id =>
    rcases List.mem_cons.mp member with same | member
    · cases same
    · obtain ⟨collection, -, same⟩ := List.mem_map.mp member
      cases same
  | update entity mask =>
    rcases List.mem_cons.mp member with same | member
    · cases same
    rcases List.mem_append.mp member with member | member
    · split at member
      · cases member
      · cases List.mem_singleton.mp member
    · obtain ⟨⟨collection, index⟩, inside, member⟩ := List.mem_flatMap.mp member
      dsimp only at member
      split at member
      · rcases List.mem_cons.mp member with same | member
        · cases same
        · exact ⟨entity, rfl, collection, index, inside, mem_batch member⟩
      · cases member
  | delete id =>
    rcases List.mem_append.mp member with member | member
    · obtain ⟨collection, -, same⟩ := List.mem_map.mp member
      cases same
    · cases List.mem_singleton.mp member

end Batches

theorem keepsAgenda_around {α : Type} {body : Operation α} {reply : α → Reply E} {good : α → Stage E → Prop}
    {stage : Stage E} (same : mapping.operation call = do return reply (← Operation.inTransaction body))
    (works : WorksOff body.run (mapping.agenda call)) (follows : mapping.Follows good body.run stage) (store : Store σ)
    (state : σ) : mapping.KeepsAgenda call (mapping.exchanges store call state) := by
  obtain ⟨outcome, transacted, -⟩ := transacted_around same store state
  have inOrder := inOrder_transacted works transacted
  exact ⟨inOrder, whole_transacted works follows transacted, fun _ _ _ _ member => mem_agenda (inOrder.subset member)⟩

/-- Whatever the store answers and whenever the token is cancelled, a call works off its agenda. -/
theorem perform_keepsAgenda (mapping : Mapping E) (store : Store σ) (call : Call E) (state : σ) :
    mapping.KeepsAgenda call (mapping.exchanges store call state) := by
  cases call with
  | create entity =>
    exact keepsAgenda_around rfl (worksOff_insertEntity entity) (follows_insertEntity entity) store state
  | read id => exact keepsAgenda_around rfl (worksOff_readEntity id) (follows_readEntity id) store state
  | update entity mask =>
    exact keepsAgenda_around rfl (worksOff_updateEntity entity mask) (follows_updateEntity entity mask) store state
  | delete id => exact keepsAgenda_around rfl (worksOff_deleteEntity id) (follows_deleteEntity id) store state

end Mapping
end EntityStore
