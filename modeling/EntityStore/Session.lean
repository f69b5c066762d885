import EntityStore.Engine.Definition
import EntityStore.Engine.Store
import EntityStore.Json.Scout
import EntityStore.Opening
import EntityStore.Readiness
import EntityStore.Repository

/-! Sessions: one connection at a time over one directory, and the steps taken on it. A step answers and logs, and
what it commits to a file is there for the next connection. -/

namespace EntityStore

open Engine (Conditions Connection Transaction Attached Faults)

/-- How a call reaches the engine: after the readiness check, without it, or through injected faults. -/
inductive Access where
  | checked
  | unchecked
  | faulty (faults : Faults)

/-- The statements of an entity by purpose. Those of a collection name it by its place in the schema. -/
inductive StatementName where
  | insert | select | probe | update | delete
  | collectionInsert (index count : Nat)
  | collectionSelect (index : Nat)
  | collectionDelete (index : Nat)

/-- A call that breaks the contract of what it calls, and so ends everything. -/
inductive ContractError where
  | noTuples
  | noCollection (count index : Nat)
  | noUpdate

def ContractError.message : ContractError → String
  | .noTuples => Statement.tuplesMissing
  | .noCollection count index =>
      "index out of bounds: the len is " ++ Text.Decimal.text count ++ " but the index is " ++ Text.Decimal.text index
  | .noUpdate => "called `Option::unwrap()` on a `None` value"

namespace StatementName

def withCollection (schema : Schema) (index : Nat) (use : Collection → Except ContractError Statement) :
    Except ContractError Statement :=
  match schema.collections[index]? with
  | some collection => use collection
  | none => .error (.noCollection schema.collections.length index)

def statement (schema : Schema) : StatementName → Except ContractError Statement
  | .insert => .ok schema.insert
  | .select => .ok schema.select
  | .probe => .ok schema.probe
  | .update =>
      match schema.update? with
      | some statement => .ok statement
      | none => .error .noUpdate
  | .delete => .ok schema.delete
  | .collectionInsert index count =>
      withCollection schema index fun collection =>
        match count with
        | 0 => .error .noTuples
        | more + 1 => .ok (collection.insert more)
  | .collectionSelect index => withCollection schema index fun collection => .ok collection.select
  | .collectionDelete index => withCollection schema index fun collection => .ok collection.delete

end StatementName

inductive TransactionStep where
  | execute (schema : Schema) (name : StatementName) (parameters : List Value)
  | query (schema : Schema) (name : StatementName) (parameters : List Value)
  | deferForeignKeys
  | cancel
  | commit
  | rollback
  | drop

inductive TransactionReply where
  | changed (count : Nat)
  | rows (rows : List Row)
  | nothing
  | done
  | dropped
  | failed (error : StatementError)

inductive SessionStep where
  | start (mode : OpenMode)
  | writeFile (path : String) (octets : List UInt8)
  | boyScout (call : Except ShapeError (Call BoyScout)) (access : Access) (token : Token)
  | girlScout (call : Except ShapeError (Call GirlScout)) (access : Access) (token : Token)
  | transaction (checked : Bool) (token : Token) (steps : List TransactionStep)
  | migrate
  | ready
  | requireTables (schema : Schema)
  | version
  | mapper (schema : Schema)
  | status
  | dump (tables : List String)
  | put (table : String) (row : List (String × Value))
  | set (table : String) (conditions : Conditions) (column : String) (value : Value)
  | erase (table : String) (conditions : Conditions)
  | dropTable (table : String)
  | createView (name : String)
  | dropColumn (table column : String)
  | renameTable (table target : String)
  | renameColumn (table column target : String)
  | setVersion (version : Int)
  | setForeignKeys (setting : Int)
  | begin
  | commit
  | rollback

inductive SessionReply where
  | noConnection
  | opened
  | done
  | boyScout (scout : BoyScout)
  | girlScout (scout : GirlScout)
  | malformed (error : ShapeError)
  | crudFailed (error : CrudError)
  | dbFailed (error : DbError)
  | statementFailed (error : StatementError)
  | engineFailed (error : EngineError)
  | transaction (replies : List TransactionReply)
  | version (version : Nat)
  | statements (schema : Schema)
  | status (autocommit foreignKeys : Bool) (busyTimeout : Nat)
  | dump (tables : List (String × Except EngineError (List Row)))
  | changed (count : Nat)

/-- The connection in use, the file it writes to, and the directory. -/
structure Session where
  connection : Option Connection
  home : Option String
  directory : Directory

namespace Session

def fresh : Session := ⟨none, none, .empty⟩

/-- Writes what is committed over the database in the file of the connection. -/
def sync (session : Session) : Session :=
  match session.home, session.connection with
  | some name, some connection =>
      match session.directory.read? name with
      | some (.octets _) => session
      | _ => { session with directory := session.directory.store name connection.committed }
  | _, _ => session

/-- Takes up what was written over the file of the connection, unless a transaction holds on to what was there. A
file that is no longer a database leaves the connection what it knew about tables. -/
def refresh (session : Session) : Session :=
  match session.home, session.connection with
  | some name, some connection =>
      if connection.autocommit then
        let directory := session.directory.settle name
        match directory.database name with
        | .ok (database, access) =>
            { session with
              connection := some { connection with database := database, file := access }
              directory := if access.isReadable then directory.write name (.database database) else directory }
        | .error cause =>
            { session with connection := some { connection with file := .unreadable cause }, directory := directory }
      else session
  | _, _ => session

/-- Opening gives up the connection in use first, with whatever it has not committed. -/
def start (session : Session) (mode : OpenMode) : SessionReply × List Event × Session :=
  let home := mode.fileName?
  let directory := home.elim session.directory session.directory.settle
  match mode.run directory with
  | (.ok connection, events) =>
      let stored := home.elim directory fun name =>
        if connection.file.isReadable then directory.store name connection.committed else directory
      (.opened, events, ⟨some connection, home, stored⟩)
  | (.error error, events) => (.dbFailed error, events, ⟨none, none, directory⟩)

def writeFile (session : Session) (path : String) (octets : List UInt8) : Session :=
  match Directory.fileName? path with
  | some name => { session with directory := session.directory.write name (.octets octets) }
  | none => session

/-- The reply to a call in its own words. -/
def replyOf (found : E → SessionReply) : Except CrudError (Reply E) → SessionReply
  | .ok .done => .done
  | .ok (.found entity) => found entity
  | .error error => .crudFailed error

/-- The readiness check comes first where there is one, then the shape of the call. -/
def perform (mapping : Mapping E) (found : E → SessionReply) (connection : Connection)
    (call : Except ShapeError (Call E)) (access : Access) (token : Token) :
    SessionReply × List Event × Connection :=
  let run (store : Store Attached) : SessionReply × List Event × Connection :=
    match call with
    | .error error => (.malformed error, [], connection)
    | .ok call =>
        let (outcome, events, attached) := mapping.perform store call (.ofConnection connection token)
        (replyOf found outcome, events, attached.transaction.connection)
  match access with
  | .checked =>
      match connection.requireReady mapping.schema with
      | .error error => (.dbFailed error, [], connection)
      | .ok () => run Attached.store
  | .unchecked => run Attached.store
  | .faulty faults => run faults.store

/-- Takes steps on a transaction until it is rolled back or dropped, replies newest first. -/
def transactionSteps (transaction : Transaction) (replies : List TransactionReply) :
    List TransactionStep → Except ContractError (List TransactionReply × Connection)
  | [] => .ok (replies.reverse, transaction.drop)
  | step :: rest =>
      let continueWith (reply : TransactionReply) (next : Transaction) :=
        transactionSteps next (reply :: replies) rest
      match step with
      | .execute schema name parameters => do
          let statement ← name.statement schema
          match transaction.execute statement parameters with
          | (.ok count, next) => continueWith (.changed count) next
          | (.error error, next) => continueWith (.failed error) next
      | .query schema name parameters => do
          let statement ← name.statement schema
          match transaction.query statement parameters with
          | (.ok rows, next) => continueWith (.rows rows) next
          | (.error error, next) => continueWith (.failed error) next
      | .deferForeignKeys => continueWith .nothing transaction.deferForeignKeys
      | .cancel => continueWith .nothing transaction.cancel
      | .commit =>
          match transaction.commit with
          | (.ok (), next) => continueWith .done next
          | (.error error, next) => continueWith (.failed error) next
      | .rollback =>
          match transaction.rollback with
          | (.ok (), next) => .ok ((TransactionReply.done :: replies).reverse, next.connection)
          | (.error error, next) => .ok ((TransactionReply.failed error :: replies).reverse, next.connection)
      | .drop => .ok ((TransactionReply.dropped :: replies).reverse, transaction.drop)

def runTransaction (connection : Connection) (checked : Bool) (token : Token) (steps : List TransactionStep) :
    Except ContractError (SessionReply × Connection) :=
  match if checked then connection.requireLatest else .ok () with
  | .error error => .ok (.dbFailed error, connection)
  | .ok () =>
      match Transaction.begin ⟨connection, token⟩ with
      | (.error error, transaction) => .ok (.statementFailed error, transaction.connection)
      | (.ok (), transaction) => do
          let (replies, connection) ← transactionSteps transaction [] steps
          return (.transaction replies, connection)

def doneOr (outcome : Except EngineError Unit) : SessionReply :=
  match outcome with
  | .ok () => .done
  | .error error => .engineFailed error

def changedOr (outcome : Except EngineError Nat) : SessionReply :=
  match outcome with
  | .ok count => .changed count
  | .error error => .engineFailed error

def readyOr (reply : SessionReply) (outcome : Except DbError Unit) : SessionReply :=
  match outcome with
  | .ok () => reply
  | .error error => .dbFailed error

/-- Whether a step begins with a statement that reads, outside any transaction of its own. -/
def readsFirst : SessionStep → Bool
  | .boyScout _ .checked _ | .girlScout _ .checked _ | .transaction true _ _ | .migrate | .ready | .requireTables _
  | .version | .mapper _ | .dump _ => true
  | _ => false

def isStatement : TransactionStep → Bool
  | .execute .. | .query .. => true
  | _ => false

def looksAtTables : SessionStep → Bool
  | .start _ | .writeFile .. | .ready | .version | .status | .setVersion _ | .setForeignKeys _ | .begin | .commit
  | .rollback | .migrate => false
  | .transaction _ _ steps => steps.any isStatement
  | _ => true

def onConnection (connection : Connection) : SessionStep →
    Except ContractError (SessionReply × List Event × Connection)
  | .start _ | .writeFile .. => .ok (.done, [], connection)
  | .boyScout call access token =>
      .ok (perform BoyScout.mapping .boyScout connection call access token)
  | .girlScout call access token =>
      .ok (perform GirlScout.mapping .girlScout connection call access token)
  | .transaction checked token steps => do
      let (reply, connection) ← runTransaction connection checked token steps
      return (reply, [], connection)
  | .migrate =>
      let (outcome, events, connection) := connection.migrate
      .ok (readyOr .done outcome, events, connection)
  | .ready => .ok (readyOr .done connection.requireLatest, [], connection)
  | .requireTables schema => .ok (readyOr .done (connection.requireSchema schema), [], connection)
  | .version =>
      match connection.version with
      | .ok version => .ok (.version version, [], connection)
      | .error error => .ok (.dbFailed error, [], connection)
  | .mapper schema => .ok (readyOr (.statements schema) (connection.requireReady schema), [], connection)
  | .status => .ok (.status connection.autocommit connection.foreignKeys connection.busyTimeout, [], connection)
  | .dump tables => .ok (.dump (tables.map fun name => (name, connection.list name)), [], connection)
  | .put table row => counted (connection.put table row)
  | .set table conditions column value => counted (connection.set table conditions column value)
  | .erase table conditions => counted (connection.erase table conditions)
  | .dropTable table => plain (connection.dropTable table)
  | .createView name => plain (connection.createView name)
  | .dropColumn table column => plain (connection.dropColumn table column)
  | .renameTable table target => plain (connection.renameTable table target)
  | .renameColumn table column target => plain (connection.renameColumn table column target)
  | .setVersion version => plain (connection.setVersion version)
  | .setForeignKeys setting => .ok (.done, [], connection.setForeignKeys setting)
  | .begin => plain connection.begin
  | .commit => plain connection.commit
  | .rollback => plain connection.rollback
where
  plain (step : Except EngineError Unit × Connection) :
      Except ContractError (SessionReply × List Event × Connection) := .ok (doneOr step.1, [], step.2)
  counted (step : Except EngineError Nat × Connection) :
      Except ContractError (SessionReply × List Event × Connection) := .ok (changedOr step.1, [], step.2)

def stepOn (session : Session) (step : SessionStep) : Except ContractError (SessionReply × List Event × Session) :=
  match session.connection with
  | none => .ok (.noConnection, [], session)
  | some connection => do
      let started := if readsFirst step then connection.statementEnd else connection
      let (reply, events, connection) ← onConnection started step
      let known := connection.requireTables.isOk && (connection.knowsTables || looksAtTables step)
      return (reply, events, { session with connection := some { connection with knowsTables := known } }.sync)

def step (session : Session) : SessionStep → Except ContractError (SessionReply × List Event × Session)
  | .start mode => .ok (session.start mode)
  | .writeFile path octets => .ok (.done, [], session.writeFile path octets)
  | step => session.refresh.stepOn step

def run (session : Session) : List SessionStep → Except ContractError (List (SessionReply × List Event))
  | [] => .ok []
  | next :: rest => do
      let (reply, events, session) ← session.step next
      let later ← session.run rest
      return (reply, events) :: later

end Session
end EntityStore
