import EntityStore.Proofs.Transacted

/-! What calls issue. The statements that change anything are fixed by the call alone: a list that the body of a create
or a delete works off, and that of an update once it has seen that the row is there. So are the statements that only
read. -/

namespace EntityStore

instance : LawfulMonad Procedure := LawfulMonad.mk' Procedure
  (fun procedure => by
    change procedure.bind .done = procedure
    induction procedure with
    | done result => rfl
    | call request next ih => exact congrArg (Procedure.call request) (funext ih))
  (fun _ _ => rfl)
  (fun procedure first rest => by
    change (procedure.bind first).bind rest = procedure.bind fun value => (first value).bind rest
    induction procedure with
    | done result => rfl
    | call request next ih => exact congrArg (Procedure.call request) (funext ih))

abbrev Write := Statement × List Value

abbrev Query := Statement × List Value

/-- The statements that a call can issue, with their parameters. -/
structure Plan where
  queries : List Query
  writes : List Write

namespace Operation

def executeAll : List Write → Operation Unit
  | [] => return
  | write :: rest => do
      execute write.1 write.2
      executeAll rest

theorem executeAll_append (first rest : List Write) :
    executeAll (first ++ rest) = (do executeAll first; executeAll rest) := by
  induction first with
  | nil => exact (pure_bind _ _).symm
  | cons write first ih => rw [List.cons_append, executeAll, executeAll, ih, bind_assoc]

theorem executeAll_singleton (write : Write) : executeAll [write] = execute write.1 write.2 := by
  rw [executeAll, executeAll]
  exact bind_pure _

end Operation

namespace Mapping
variable {E : Type} (mapping : Mapping E)

/-- The insert of a collection, which an empty one does not need. -/
def fill (collection : Collection) (id : Value) : List Value → List Write
  | [] => []
  | first :: others => [(collection.insert others.length, elementParameters id 0 (first :: others))]

def fills (entity : E) (id : Value) : Nat → List Collection → List Write
  | _, [] => []
  | index, collection :: rest =>
      fill collection id (mapping.encodeCollection entity index) ++ fills entity id (index + 1) rest

def clears (id : Value) (collections : List Collection) : List Write :=
  collections.map fun collection => (collection.delete, [id])

/-- The collections that a mask includes, each cleared and filled again. -/
def refills (entity : E) (mask : FieldMask) (id : Value) : Nat → List Collection → List Write
  | _, [] => []
  | index, collection :: rest =>
      (if mask.included collection.field then
        (collection.delete, [id]) :: fill collection id (mapping.encodeCollection entity index)
      else []) ++ refills entity mask id (index + 1) rest

def columnWrites (entity : E) (mask : FieldMask) (id : Value) : List Write :=
  mapping.schema.update?.toList.map fun statement =>
    (statement, maskedParameters mask mapping.schema.columns (mapping.encodeColumns entity) ++ [id])

/-- What a call writes if nothing stops it. -/
def writes : Call E → List Write
  | .create entity =>
      let id := Codec.encodeText (mapping.id entity)
      (mapping.schema.insert, id :: mapping.encodeColumns entity) :: mapping.fills entity id 0 mapping.schema.collections
  | .read _ => []
  | .update entity mask =>
      let id := Codec.encodeText (mapping.id entity)
      mapping.columnWrites entity mask id ++ mapping.refills entity mask id 0 mapping.schema.collections
  | .delete id =>
      clears (Codec.encodeText id) mapping.schema.collections ++ [(mapping.schema.delete, [Codec.encodeText id])]

def queries : Call E → List Query
  | .read id =>
      let id := Codec.encodeText id
      (mapping.schema.select, [id]) :: mapping.schema.collections.map fun collection => (collection.select, [id])
  | .update entity _ => [(mapping.schema.probe, [Codec.encodeText (mapping.id entity)])]
  | .create _ | .delete _ => []

def plan (call : Call E) : Plan := ⟨mapping.queries call, mapping.writes call⟩

variable {mapping}

theorem insertCollection_eq (collection : Collection) (id : Value) (values : List Value) :
    insertCollection collection id values = Operation.executeAll (fill collection id values) := by
  cases values with
  | nil => rfl
  | cons first others => exact (Operation.executeAll_singleton (_, _)).symm

theorem insertCollections_eq (entity : E) (id : Value) (index : Nat) (collections : List Collection) :
    mapping.insertCollections entity id index collections =
      Operation.executeAll (mapping.fills entity id index collections) := by
  induction collections generalizing index with
  | nil => rfl
  | cons collection rest ih => rw [insertCollections, fills, Operation.executeAll_append, ih, insertCollection_eq]

theorem insertEntity_eq (entity : E) :
    mapping.insertEntity entity = Operation.executeAll (mapping.writes (.create entity)) := by
  rw [insertEntity, writes, Operation.executeAll, insertCollections_eq]

theorem deleteCollections_eq (id : Value) (collections : List Collection) :
    deleteCollections id collections = Operation.executeAll (clears id collections) := by
  induction collections with
  | nil => rfl
  | cons collection rest ih => rw [deleteCollections, ih]; rfl

theorem deleteEntity_eq (id : String) :
    mapping.deleteEntity id = Operation.executeAll (mapping.writes (.delete id)) := by
  rw [deleteEntity, writes, Operation.executeAll_append, deleteCollections_eq, Operation.executeAll_singleton]

theorem replaceCollections_eq (entity : E) (mask : FieldMask) (id : Value) (index : Nat)
    (collections : List Collection) :
    mapping.replaceCollections entity mask id index collections =
      Operation.executeAll (mapping.refills entity mask id index collections) := by
  induction collections generalizing index with
  | nil => rfl
  | cons collection rest ih =>
    rw [replaceCollections, refills, Operation.executeAll_append]
    by_cases included : mask.included collection.field = true
    · rw [if_pos included, if_pos included, Operation.executeAll, insertCollection_eq, ih]
      simp only [bind_assoc]
    · rw [if_neg included, if_neg included, ih]
      exact (pure_bind _ _).symm

theorem updateColumns_eq (entity : E) (mask : FieldMask) (id : Value) :
    mapping.updateColumns entity mask id = Operation.executeAll (mapping.columnWrites entity mask id) := by
  unfold updateColumns columnWrites
  cases mapping.schema.update? with
  | none => rfl
  | some statement => exact (Operation.executeAll_singleton (_, _)).symm

/-- Once an update has seen the row that it is to change, it has only its writes left to do. -/
theorem updateEntity_writes (entity : E) (mask : FieldMask) :
    (do
      mapping.updateColumns entity mask (Codec.encodeText (mapping.id entity))
      mapping.replaceCollections entity mask (Codec.encodeText (mapping.id entity)) 0 mapping.schema.collections) =
      Operation.executeAll (mapping.writes (.update entity mask)) := by
  rw [writes, Operation.executeAll_append, updateColumns_eq, replaceCollections_eq]

end Mapping

def Statement.reads : Statement → Bool
  | .select .. | .probe .. => true
  | .insert .. | .insertRows .. | .update .. | .delete .. => false

theorem Mapping.queries_read {E : Type} (mapping : Mapping E) (call : Call E) :
    ∀ query ∈ mapping.queries call, query.1.reads = true := by
  cases call with
  | create entity => intro query member; cases member
  | read id =>
    refine List.forall_mem_cons.mpr ⟨rfl, fun query member => ?_⟩
    obtain ⟨collection, -, rfl⟩ := List.mem_map.mp member
    rfl
  | update entity mask => exact List.forall_mem_singleton.mpr rfl
  | delete id => intro query member; cases member

def Request.IsPlanned (plan : Plan) : Request → Prop
  | .execute statement parameters => (statement, parameters) ∈ plan.writes
  | .query statement parameters => (statement, parameters) ∈ plan.queries
  | .begin | .advance _ | .scan | .close | .commit | .rollback | .check => True

/-- Whatever the answers are, every request is planned. -/
def Procedure.Keeps (plan : Plan) : Procedure α → Prop
  | .done _ => True
  | .call request next => request.IsPlanned plan ∧ ∀ response, (next response).Keeps plan

variable {plan : Plan}

namespace Procedure

theorem Keeps.bind {procedure : Procedure α} {next : α → Procedure β} (keeps : procedure.Keeps plan)
    (rest : ∀ value, (next value).Keeps plan) : (procedure.bind next).Keeps plan := by
  induction procedure with
  | done result => exact rest result
  | call request answer ih => exact ⟨keeps.1, fun response => ih response (keeps.2 response)⟩

theorem Keeps.exchanges {procedure : Procedure α} (keeps : procedure.Keeps plan) (store : Store σ) (state : σ) :
    ∀ exchange ∈ procedure.exchanges store state, exchange.request.IsPlanned plan := by
  induction procedure generalizing state with
  | done result => intro exchange member; cases member
  | call request answer ih =>
    intro exchange member
    rcases List.mem_cons.mp member with rfl | member
    · exact keeps.1
    · exact ih _ (keeps.2 _) _ exchange member

theorem keeps_ask {request : Request} (planned : request.IsPlanned plan) : (ask request).Keeps plan :=
  ⟨planned, fun _ => trivial⟩

end Procedure

namespace Operation

theorem keeps_bind {operation : Operation α} {next : α → Operation β} (keeps : operation.run.Keeps plan)
    (rest : ∀ value, (next value).run.Keeps plan) : (operation >>= next).run.Keeps plan := by
  refine Procedure.Keeps.bind keeps fun outcome => ?_
  cases outcome with
  | ok value => exact rest value
  | error error => trivial

theorem keeps_ofStatement {answer : Procedure (Except StatementError α)} (keeps : answer.Keeps plan) :
    (ofStatement answer).run.Keeps plan := by
  refine Procedure.Keeps.bind keeps fun outcome => ?_
  cases outcome <;> trivial

theorem keeps_query {statement : Statement} {parameters : List Value} (known : (statement, parameters) ∈ plan.queries) :
    (query statement parameters).run.Keeps plan :=
  keeps_ofStatement (Procedure.keeps_ask known)

theorem keeps_advance (limit : Nat) : (advance limit).run.Keeps plan :=
  keeps_ofStatement (Procedure.keeps_ask trivial)

theorem keeps_scan : scan.run.Keeps plan := keeps_ofStatement (Procedure.keeps_ask trivial)

theorem keeps_close : close.run.Keeps plan := Procedure.Keeps.bind (Procedure.keeps_ask trivial) fun _ => trivial

theorem keeps_ofCodec (decoded : Except CodecError α) : (ofCodec decoded).run.Keeps plan := by
  cases decoded <;> trivial

theorem keeps_executeAll {writes : List Write} (known : writes ⊆ plan.writes) : (executeAll writes).run.Keeps plan := by
  induction writes with
  | nil => trivial
  | cons write rest ih =>
    obtain ⟨member, known⟩ := List.cons_subset.mp known
    exact keeps_bind (keeps_ofStatement (Procedure.keeps_ask member)) fun _ => ih known

theorem keeps_collect (limit : Nat) (read : List Value) : (collect limit read).run.Keeps plan := by
  induction limit using Nat.strongRecOn generalizing read with
  | ind limit ih =>
    rw [collect]
    refine keeps_bind (keeps_advance limit) fun moved => ?_
    cases moved with
    | none => trivial
    | some rest =>
      refine keeps_bind keeps_scan fun row => ?_
      exact keeps_bind (keeps_ofCodec _) fun value => ih rest rest.isLt _

theorem keeps_orRollback {operation : Operation α} (keeps : operation.run.Keeps plan) :
    (orRollback operation).run.Keeps plan := by
  refine Procedure.Keeps.bind keeps fun outcome => ?_
  cases outcome with
  | ok value => trivial
  | error error => exact Procedure.Keeps.bind (Procedure.keeps_ask trivial) fun _ => trivial

theorem keeps_inTransaction {body : Operation α} (keeps : body.run.Keeps plan) :
    (inTransaction body).run.Keeps plan := by
  refine keeps_bind (keeps_ofStatement (Procedure.keeps_ask trivial)) fun _ => keeps_orRollback ?_
  refine keeps_bind keeps fun value => ?_
  refine keeps_bind (keeps_ofStatement (Procedure.keeps_ask trivial)) fun _ => ?_
  exact keeps_bind (keeps_ofStatement (Procedure.keeps_ask trivial)) fun _ => trivial

end Operation

namespace Mapping
variable {E : Type} {mapping : Mapping E}

theorem keeps_readCollections (id : Value) (entity : E) (index : Nat) {collections : List Collection}
    (known : ∀ collection ∈ collections, (collection.select, [id]) ∈ plan.queries) :
    (mapping.readCollections id entity index collections).run.Keeps plan := by
  induction collections generalizing entity index with
  | nil => trivial
  | cons collection rest ih =>
    obtain ⟨here, later⟩ := List.forall_mem_cons.mp known
    refine Operation.keeps_bind (Operation.keeps_query here) fun limit => ?_
    refine Operation.keeps_bind (Operation.keeps_collect _ _) fun values => ?_
    refine Operation.keeps_bind Operation.keeps_close fun _ => ?_
    exact Operation.keeps_bind (Operation.keeps_ofCodec _) fun entity => ih entity (index + 1) later

theorem keeps_readEntity (id : String) : (mapping.readEntity id).run.Keeps (mapping.plan (.read id)) := by
  refine Operation.keeps_bind (Operation.keeps_query List.mem_cons_self) fun limit => ?_
  refine Operation.keeps_bind (Operation.keeps_advance _) fun moved => ?_
  cases moved with
  | none => trivial
  | some rest =>
    refine Operation.keeps_bind Operation.keeps_scan fun row => ?_
    refine Operation.keeps_bind (Operation.keeps_ofCodec _) fun entity => ?_
    refine Operation.keeps_bind Operation.keeps_close fun _ => keeps_readCollections _ _ _ fun collection member => ?_
    exact List.mem_cons_of_mem _ (List.mem_map_of_mem member)

theorem keeps_updateEntity (entity : E) (mask : FieldMask) :
    (mapping.updateEntity entity mask).run.Keeps (mapping.plan (.update entity mask)) := by
  refine Operation.keeps_bind (Operation.keeps_query List.mem_cons_self) fun limit => ?_
  refine Operation.keeps_bind (Operation.keeps_advance _) fun moved => ?_
  cases moved with
  | none => trivial
  | some rest =>
    refine Operation.keeps_bind Operation.keeps_close fun _ => ?_
    change Procedure.Keeps _ (ExceptT.run (do
      mapping.updateColumns entity mask (Codec.encodeText (mapping.id entity))
      mapping.replaceCollections entity mask (Codec.encodeText (mapping.id entity)) 0 mapping.schema.collections))
    rw [updateEntity_writes]
    exact Operation.keeps_executeAll (List.Subset.refl _)

/-- On any store a call issues nothing that it does not plan. -/
theorem keeps_operation (mapping : Mapping E) (call : Call E) :
    (mapping.operation call).run.Keeps (mapping.plan call) := by
  cases call with
  | create entity =>
    refine Operation.keeps_bind (Operation.keeps_inTransaction ?_) fun _ => trivial
    rw [insertEntity_eq]
    exact Operation.keeps_executeAll (List.Subset.refl _)
  | read id => exact Operation.keeps_bind (Operation.keeps_inTransaction (keeps_readEntity id)) fun _ => trivial
  | update entity mask =>
    exact Operation.keeps_bind (Operation.keeps_inTransaction (keeps_updateEntity entity mask)) fun _ => trivial
  | delete id =>
    refine Operation.keeps_bind (Operation.keeps_inTransaction ?_) fun _ => trivial
    rw [deleteEntity_eq]
    exact Operation.keeps_executeAll (List.Subset.refl _)

end Mapping
end EntityStore
