import EntityStore.Event
import EntityStore.FieldMask
import EntityStore.Procedure

/-! Create, read, update and delete. Each operation is one transaction of statements that the schema
determines; collections are written in the order of their elements with ordinals from zero. -/

namespace EntityStore

inductive Call (E : Type) where
  | create (entity : E)
  | read (id : String)
  | update (entity : E) (mask : FieldMask)
  | delete (id : String)

inductive Reply (E : Type) where
  | done
  | found (entity : E)

namespace Mapping
variable {E : Type}

/-- Id, ordinal and value of each element, ordinals counting from the first. -/
def elementParameters (id : Value) (ordinal : Nat) : List Value → List Value
  | [] => []
  | value :: rest => id :: .integer (Int64.ofInt ordinal) :: value :: elementParameters id (ordinal + 1) rest

/-- All elements in one statement. Nothing is written for an empty collection. -/
def insertCollection (collection : Collection) (id : Value) (values : List Value) : Operation Unit :=
  match values with
  | [] => return
  | _ :: others => Operation.execute (collection.insert others.length) (elementParameters id 0 values)

def insertCollections (mapping : Mapping E) (entity : E) (id : Value) : Nat → List Collection → Operation Unit
  | _, [] => return
  | index, collection :: rest => do
      insertCollection collection id (mapping.encodeCollection entity index)
      mapping.insertCollections entity id (index + 1) rest

def insertEntity (mapping : Mapping E) (entity : E) : Operation Unit := do
  let id := Codec.encodeText (mapping.id entity)
  Operation.execute mapping.schema.insert (id :: mapping.encodeColumns entity)
  mapping.insertCollections entity id 0 mapping.schema.collections

def create (mapping : Mapping E) (entity : E) : Operation Unit :=
  Operation.inTransaction (mapping.insertEntity entity)

def readCollections (mapping : Mapping E) (id : Value) (entity : E) : Nat → List Collection → Operation E
  | _, [] => return entity
  | index, collection :: rest => do
      let limit ← Operation.query collection.select [id]
      let values ← Operation.collect limit []
      Operation.close
      let entity ← Operation.ofCodec (mapping.decodeCollection entity index values)
      mapping.readCollections id entity (index + 1) rest

def notFound (mapping : Mapping E) (id : String) : CrudError := .notFound mapping.schema.table id

/-- Only the first row of the parent counts. -/
def readEntity (mapping : Mapping E) (id : String) : Operation E := do
  let idValue := Codec.encodeText id
  let limit ← Operation.query mapping.schema.select [idValue]
  match ← Operation.advance limit with
  | none => throw (mapping.notFound id)
  | some _ =>
      let row ← Operation.scan
      let entity ← Operation.ofCodec (mapping.decodeRow row)
      Operation.close
      mapping.readCollections idValue entity 0 mapping.schema.collections

def read (mapping : Mapping E) (id : String) : Operation E := Operation.inTransaction (mapping.readEntity id)

/-- For each column whether the mask includes its field, and its value. -/
def maskedParameters (mask : FieldMask) (columns : List Column) (values : List Value) : List Value :=
  (columns.zip values).flatMap fun (column, value) => [Value.ofBool (mask.included column.field), value]

def replaceCollections (mapping : Mapping E) (entity : E) (mask : FieldMask) (id : Value) :
    Nat → List Collection → Operation Unit
  | _, [] => return
  | index, collection :: rest => do
      if mask.included collection.field then
        Operation.execute collection.delete [id]
        insertCollection collection id (mapping.encodeCollection entity index)
      mapping.replaceCollections entity mask id (index + 1) rest

def updateColumns (mapping : Mapping E) (entity : E) (mask : FieldMask) (id : Value) : Operation Unit :=
  match mapping.schema.update? with
  | none => return
  | some statement =>
      Operation.execute statement
        (maskedParameters mask mapping.schema.columns (mapping.encodeColumns entity) ++ [id])

/-- Included columns are overwritten and included collections replaced as a whole. -/
def updateEntity (mapping : Mapping E) (entity : E) (mask : FieldMask) : Operation Unit := do
  let id := Codec.encodeText (mapping.id entity)
  let limit ← Operation.query mapping.schema.probe [id]
  match ← Operation.advance limit with
  | none => throw (mapping.notFound (mapping.id entity))
  | some _ =>
      Operation.close
      mapping.updateColumns entity mask id
      mapping.replaceCollections entity mask id 0 mapping.schema.collections

def update (mapping : Mapping E) (entity : E) (mask : FieldMask) : Operation Unit :=
  Operation.inTransaction (mapping.updateEntity entity mask)

def deleteCollections (id : Value) : List Collection → Operation Unit
  | [] => return
  | collection :: rest => do
      Operation.execute collection.delete [id]
      deleteCollections id rest

/-- Collection rows go before the parent row they refer to. A missing id is no failure. -/
def deleteEntity (mapping : Mapping E) (id : String) : Operation Unit := do
  let idValue := Codec.encodeText id
  deleteCollections idValue mapping.schema.collections
  Operation.execute mapping.schema.delete [idValue]

def delete (mapping : Mapping E) (id : String) : Operation Unit :=
  Operation.inTransaction (mapping.deleteEntity id)

def operation (mapping : Mapping E) : Call E → Operation (Reply E)
  | .create entity => do mapping.create entity; return .done
  | .read id => return .found (← mapping.read id)
  | .update entity mask => do mapping.update entity mask; return .done
  | .delete id => do mapping.delete id; return .done

def event (mapping : Mapping E) : Call E → Event
  | .create _ => .created mapping.schema.table
  | .read _ => .read mapping.schema.table
  | .update _ mask => .updated mapping.schema.table (!mask.isAll)
  | .delete _ => .deleted mapping.schema.table

/-- The result of a call on a store, and the events it logs: none unless it succeeds. -/
def perform (mapping : Mapping E) (store : Store σ) (call : Call E) (state : σ) :
    Except CrudError (Reply E) × List Event × σ :=
  let (outcome, state) := (mapping.operation call).run.run store state
  match outcome with
  | .ok reply => (.ok reply, [mapping.event call], state)
  | .error error => (.error error, [], state)

end Mapping
end EntityStore
