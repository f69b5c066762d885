import EntityStore.Engine.Catalog
import EntityStore.Engine.Change
import EntityStore.Engine.Scan
import EntityStore.Statement

/-! Connections and the statements they run. A statement is checked against the tables before it runs and either
takes effect as a whole or not at all. While a transaction is open the state from before it is kept aside. Left out
are the limit of the engine on the length of a value or a row, and rows with texts that are not well-formed UTF-8. -/

namespace EntityStore.Engine

/-- At most so many parameters in one statement. -/
def variableLimit : Nat := 32766

/-- What a connection can do with the file behind it. Beside a file with a long name there is no room for the files
that writing needs. What a file holds may be no database at all, or one whose tables cannot be made out. -/
inductive FileAccess where
  | writable
  | unwritable
  | tablesUnreadable (cause : EngineError)
  | unreadable (cause : EngineError)
  deriving DecidableEq, Repr

def FileAccess.isReadable : FileAccess → Bool
  | .writable | .unwritable => true
  | .tablesUnreadable _ | .unreadable _ => false

structure Connection where
  database : Database
  /-- The committed state while a transaction is open. -/
  saved : Option Database
  foreignKeys : Bool
  /-- Missing parents are judged at the commit and not at the end of each statement. -/
  deferring : Bool
  /-- Missing parents that wait for the commit. -/
  pending : Int
  /-- Rows changed by the last statement that could change any. -/
  changes : Nat
  file : FileAccess
  /-- Whether a statement has looked at the tables since the connection was opened. -/
  knowsTables : Bool
  /-- How long a statement waits for a lock, in milliseconds. -/
  busyTimeout : Nat
  deriving DecidableEq, Repr

inductive Outcome where
  | rows (rows : List Row)
  | changed (count : Nat)
  deriving DecidableEq, Repr

/-- A zero character ends the text of a statement. The first parameter too many is refused, and then a name that is
not finished. -/
def requireText (text : String) (arity : Nat) : Except EngineError Unit :=
  let read := text.toList.takeWhile (· != '\x00')
  let excess := if arity ≤ variableLimit then none else Text.Quoted.markOffset? false variableLimit 0 read
  match excess, Text.Quoted.unfinished? 0 none read with
  | some offset, _ => .error (.located .tooManyVariables text offset)
  | none, some (offset, token) => .error (.located (.unrecognizedToken (String.ofList token.reverse)) text offset)
  | none, none => .ok ()

inductive Target where
  | reads (relation : Relation)
  | writes (table : Table)

def Target.relation : Target → Relation
  | .reads relation => relation
  | .writes table => table.toRelation

namespace Database

/-- Rows are referred to by a column that is a key of their table. -/
def requireReferred (child : Table) (reference : Reference) (parent : Table) : Except EngineError Unit :=
  if (parent.referred? reference).isSome then .ok () else .error (.foreignKeyMismatch child.name reference.parent)

/-- A table that refers to a parent needs the parent to be a table. -/
def requireParents (database : Database) (table : Table) (touched : Nat → Bool) : Except EngineError Unit :=
  table.references.reverse.forM fun reference =>
    if touched reference.column then
      match database.item? reference.parent with
      | some (.table parent) => requireReferred table reference parent
      | some (.view _) => .error (.foreignKeyMismatch table.name reference.parent)
      | none => .error (.noSuchTable ("main." ++ reference.parent))
    else .ok ()

/-- Whether a column that a reference names in its parent is among those touched. One that is not there is touched
where all are. -/
def touchesReferred (table : Table) (reference : Reference) (touched : Nat → Bool) : Bool :=
  match reference.key with
  | some name => touched ((table.columnIndex? name).getD table.columns.length)
  | none => touched table.columns.length || (table.keys.any fun key => key.primary && key.columns.any touched)

/-- The tables that refer to columns touched must be able to. -/
def requireChildren (database : Database) (table : Table) (touched : Nat → Bool) : Except EngineError Unit :=
  (database.referring table.name).forM fun (child, reference) =>
    if touchesReferred table reference touched then requireReferred child reference table else .ok ()

/-- The tables on the other side of the references that a change of a table concerns. -/
def requireReferences (database : Database) (table : Table) (touched : Nat → Bool) : Except EngineError Unit := do
  database.requireParents table touched
  database.requireChildren table touched

def requirePlaces (table : Table) (error : String → EngineError) (names : List String) : Except EngineError Unit :=
  names.forM fun name => if (table.place? name).isSome then .ok () else .error (error name)

def touched (table : Table) (names : List String) (index : Nat) : Bool :=
  names.any fun name => table.place? name == some (table.placeOf index)

/-- What a statement works on. While parents are enforced, a statement that changes columns of a reference needs the
tables on its other side. -/
def target (database : Database) (enforced : Bool) (statement : Statement) (parameters : List Value) :
    Except EngineError Target :=
  match statement with
  | .select name _ key _ | .probe name key => .reads <$> database.source name (some (key, cell parameters 0))
  | .insert name columns | .insertRows name columns 0 => do
      let table ← database.writable name
      requirePlaces table (.tableHasNoColumn name) columns
      if enforced then database.requireParents table fun _ => true
      return .writes table
  | .insertRows name columns (_ + 1) => do
      let table ← database.writable name
      requirePlaces table (.tableHasNoColumn name) columns
      if enforced then database.requireReferences table fun _ => true
      return .writes table
  | .update name columns _ => do
      let table ← database.writable name
      requirePlaces table .noSuchColumn columns
      if enforced then database.requireReferences table (touched table columns)
      return .writes table
  | .delete name _ => do
      let table ← database.writable name
      if enforced then database.requireReferences table fun _ => true
      return .writes table

/-- Too many parameters are noticed at the first one too many. -/
def requireArity (statement : Statement) (parameters : List Value) : Except EngineError Unit :=
  if parameters.length = statement.arity then .ok ()
  else .error (.parameterCount (min parameters.length (statement.arity + 1)) statement.arity)

/-- The values that named places are given, in two parts: the row, with the default in the columns not named, and
the number, which the last name for it decides. -/
def layout (table : Table) (names : List String) (values : List Value) : Value × Row :=
  let places := names.map table.place?
  let row := table.columns.mapIdx fun index column =>
    match places.findIdx? (· == some (.column index)) with
    | some position => cell values position
    | none => column.default
  let number := (places.zip values).foldl (fun number (place, value) =>
    if place = some .number then value else number) .null
  (number, row)

/-- Rows of a given width, one after the other. -/
def chunks (width : Nat) : Nat → List Value → List (List Value)
  | 0, _ => []
  | count + 1, values => values.take width :: chunks width count (values.drop width)

/-- Assigns to each named place its value where its flag holds. -/
def flagged (table : Table) : List String → List Value → List Assignment
  | name :: names, flag :: value :: rest =>
      match table.place? name with
      | some place => ⟨place, if flag.holds then some value else none⟩ :: flagged table names rest
      | none => flagged table names rest
  | _, _ => []

def read (relation : Relation) (statement : Statement) (parameters : List Value) : List Row :=
  let operand (name : String) : Operand := Operand.ofName relation name
  match statement with
  | .select _ columns key order =>
      relation.read ⟨operand key, cell parameters 0, columns.map operand, order.toList.map operand⟩
  | .probe _ key => (relation.scan ⟨operand key, cell parameters 0, [], []⟩).map fun _ => [.null]
  | _ => []

/-- The rows of a table after a statement on it. The references are those that concern the columns touched. -/
def write (table : Table) (references : (Nat → Bool) → References) (violations : Int) (statement : Statement)
    (parameters : List Value) : Except EngineError Progress :=
  let start : Progress := ⟨table.entries, violations, 0⟩
  let chosen (key : String) (value : Value) : Entry → Bool :=
    (Operand.ofName table.toRelation key).equals table.toRelation value
  let insertAll (rows : List (List Value)) : Except EngineError Progress :=
    let references := references fun _ => true
    rows.foldlM (fun progress values =>
      let (number, row) := layout table statement.assigned values
      progress.insert table references number row) start
  match statement with
  | .insert .. => insertAll [parameters]
  | .insertRows _ columns more => insertAll (chunks columns.length (more + 1) parameters)
  | .update _ columns key =>
      let assignments := flagged table columns parameters
      start.update table (references (Assignment.touches table assignments)) assignments
        (chosen key (cell parameters (2 * columns.length)))
  | .delete _ key => .ok (start.delete (references fun _ => true) (chosen key (cell parameters 0)))
  | .select .. | .probe .. => .ok start

end Database

namespace Connection

/-- The wait for locks on a connection on which none was set. -/
def usualTimeout : Nat := 5000

/-- A connection as it is made. The engine enforces parents before it is told to. -/
def ofDatabase (database : Database) : Connection where
  database := database
  saved := none
  foreignKeys := true
  deferring := false
  pending := 0
  changes := 0
  file := .writable
  knowsTables := false
  busyTimeout := usualTimeout

def autocommit (connection : Connection) : Bool := connection.saved.isNone

/-- The state that outlives the connection. -/
def committed (connection : Connection) : Database := connection.saved.getD connection.database

/-- The end of a statement. Outside a transaction it is a commit or a rollback, after which nothing is
deferred. -/
def statementEnd (connection : Connection) : Connection :=
  if connection.autocommit then { connection with deferring := false, pending := 0 } else connection

def statementFailed (connection : Connection) : Connection := { connection.statementEnd with changes := 0 }

/-- The file is looked at when a statement begins to run. -/
def requireReadable (connection : Connection) : Except EngineError Unit :=
  match connection.file with
  | .unreadable cause => .error cause
  | .writable | .unwritable | .tablesUnreadable _ => .ok ()

/-- A statement is checked against the tables as they were last looked at, if they ever were. -/
def requireTables (connection : Connection) : Except EngineError Unit :=
  match connection.file with
  | .tablesUnreadable cause => .error cause
  | .writable | .unwritable | .unreadable _ =>
      if connection.knowsTables then .ok () else connection.requireReadable

/-- The files beside are needed when a statement changes something. -/
def requireWritable (connection : Connection) : Except EngineError Unit :=
  if connection.file = .unwritable then .error (.cannotOpen none) else connection.requireReadable

/-- What a table's rows refer to, and what refers to them, while parents are enforced. -/
def references (connection : Connection) (table : Table) (touched : Nat → Bool) : References :=
  if connection.foreignKeys then connection.database.references table touched else .unchecked

/-- Judges the missing parents at the end of a statement that changed a table, unless that waits for a commit. -/
def settle (connection : Connection) (table : Table) (progress : Progress) : Except EngineError Nat × Connection :=
  let database := connection.database.setEntries table.name progress.entries
  if connection.deferring && !connection.autocommit then
    (.ok progress.changed,
      { connection with database := database, pending := progress.violations, changes := progress.changed })
  else if 0 < progress.violations then (.error .foreignKey, connection.statementFailed)
  else (.ok progress.changed, { connection.statementEnd with database := database, changes := progress.changed })

def change (connection : Connection) (table : Table) (outcome : Except EngineError Progress) :
    Except EngineError Nat × Connection :=
  match outcome, connection.requireWritable with
  | .error error, _ => (.error error, connection.statementFailed)
  | .ok progress, .error error =>
      if progress.changed = 0 then connection.settle table progress else (.error error, connection.statementFailed)
  | .ok progress, .ok () => connection.settle table progress

/-- Limits and names are checked first, then the number of parameters. -/
def prepare (connection : Connection) (text : String) (statement : Statement) (parameters : List Value) :
    Except EngineError Target := do
  requireText text statement.arity
  connection.requireTables
  let target ← connection.database.target connection.foreignKeys statement parameters
  Database.requireArity statement parameters
  connection.requireReadable
  target.relation.requireIntact
  return target

def runText (connection : Connection) (text : String) (statement : Statement) (parameters : List Value) :
    Except EngineError Outcome × Connection :=
  let bound := parameters.map Value.parameter
  match connection.prepare text statement bound with
  | .error error => (.error error, connection)
  | .ok (.reads relation) => (.ok (.rows (Database.read relation statement bound)), connection.statementEnd)
  | .ok (.writes table) =>
      let (outcome, connection) := connection.change table
        (Database.write table (connection.references table) connection.pending statement bound)
      (outcome.map .changed, connection)

def run (connection : Connection) (statement : Statement) (parameters : List Value) :
    Except EngineError Outcome × Connection := connection.runText statement.text statement parameters

/-- The number of rows that a statement changed. One that yields no rows repeats the last number. -/
def counted (step : Except EngineError Outcome × Connection) : Except EngineError Nat × Connection :=
  match step with
  | (.error error, connection) => (.error error, connection)
  | (.ok (.changed count), connection) => (.ok count, connection)
  | (.ok (.rows []), connection) => (.ok connection.changes, connection)
  | (.ok (.rows (_ :: _)), connection) => (.error .returnedRows, connection)

def execute (connection : Connection) (statement : Statement) (parameters : List Value) :
    Except EngineError Nat × Connection := counted (connection.run statement parameters)

def query (connection : Connection) (statement : Statement) (parameters : List Value) :
    Except EngineError (List Row) × Connection :=
  match connection.run statement parameters with
  | (.error error, connection) => (.error error, connection)
  | (.ok (.changed _), connection) => (.ok [], connection)
  | (.ok (.rows rows), connection) => (.ok rows, connection)

/-- Opens a transaction without looking at the file. -/
def begin (connection : Connection) : Except EngineError Unit × Connection :=
  if connection.autocommit then (.ok (), { connection with saved := some connection.database })
  else (.error .nestedTransaction, connection)

def beginWriting (connection : Connection) : Except EngineError Unit × Connection :=
  match connection.begin, connection.requireReadable with
  | (.ok (), _), .error error => (.error error, connection)
  | step, _ => step

/-- A transaction that still misses parents is not committed and stays open. -/
def commit (connection : Connection) : Except EngineError Unit × Connection :=
  if connection.autocommit then (.error (.noTransaction "commit"), connection.statementEnd)
  else if 0 < connection.pending then (.error .foreignKey, connection)
  else (.ok (), { connection with saved := none, deferring := false, pending := 0 })

def rollback (connection : Connection) : Except EngineError Unit × Connection :=
  match connection.saved with
  | none => (.error (.noTransaction "rollback"), connection.statementEnd)
  | some database =>
      (.ok (), { connection with database := database, saved := none, deferring := false, pending := 0 })

def deferForeignKeys (connection : Connection) : Connection := { connection with deferring := true }

/-- Enforcement of parents does not change while a transaction is open. An integer turns it on where it is not
negative, has 31 bits at most, and is not zero in the last eight of them. -/
def setForeignKeys (connection : Connection) (setting : Int) : Connection :=
  let enforced := 0 ≤ setting ∧ setting ∈ IntRange.signed32 ∧ setting % 256 ≠ 0
  if connection.autocommit then { connection with foreignKeys := enforced } else connection

def setBusyTimeout (connection : Connection) (milliseconds : Nat) : Connection :=
  { connection with busyTimeout := milliseconds }

end Connection
end EntityStore.Engine
