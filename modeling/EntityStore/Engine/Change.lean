import EntityStore.Engine.Error
import EntityStore.Engine.Table

/-! Changes of one table. A row must have its required values, a number of its own and keys of its own. Missing
parents are counted while a statement runs and judged when it ends, so a change says by how much it moves the
count. -/

namespace EntityStore.Engine

/-- What the rest of the database has to say about a row of a table. -/
structure References where
  /-- How many of the parents that the row refers to are missing. -/
  missing : Row → Nat
  children : Row → Nat

def References.unchecked : References := ⟨fun _ => 0, fun _ => 0⟩

namespace Database

/-- Whether a parent row has a value, or the value refers to none. -/
def hasParent (database : Database) (reference : Reference) (value : Value) : Bool :=
  match database.table? reference.parent with
  | none => value == .null
  | some parent =>
      match parent.referred? reference with
      | none => value == .null
      | some index => value == .null || parent.entries.any fun entry => (cell entry.values index).same value

/-- The columns of tables that refer to columns touched of a table, and those columns. -/
def referringColumns (database : Database) (table : Table) (touched : Nat → Bool) : List (Table × Nat × Nat) :=
  (database.referring table.name).filterMap fun (child, reference) =>
    match table.referred? reference with
    | some index => if touched index then some (child, reference.column, index) else none
    | none => none

/-- The references between a table and the others, as far as they concern the columns touched. -/
def references (database : Database) (table : Table) (touched : Nat → Bool) : References :=
  let own := table.references.filter fun reference => touched reference.column
  let others := database.referringColumns table touched
  { missing := fun row => own.countP fun reference => !database.hasParent reference (cell row reference.column)
    children := fun row =>
      (others.map fun (child, column, index) =>
        child.entries.countP fun entry => (cell entry.values column).same (cell row index)).foldl (· + ·) 0 }

end Database

/-- The entries of a table in the course of a statement, the missing parents, and the rows changed. -/
structure Progress where
  entries : List Entry
  violations : Int
  changed : Nat

/-- A new value for a place, or none to keep the one there. -/
structure Assignment where
  place : Place
  value : Option Value

namespace Assignment

/-- Every assignment sees the entry as it was, and the last one to a place counts. -/
def values (assignments : List Assignment) (entry : Entry) : Row :=
  assignments.foldl (fun row assignment =>
    match assignment.place with
    | .column index => row.set index (assignment.value.getD (cell entry.values index))
    | .number => row) entry.values

def number? (assignments : List Assignment) : Option Value :=
  assignments.foldl (fun number assignment =>
    match assignment.place with
    | .number => assignment.value
    | .column _ => number) none

def touches (table : Table) (assignments : List Assignment) (index : Nat) : Bool :=
  assignments.any (·.place == table.placeOf index)

end Assignment

namespace Progress

/-- A row that appears may lack parents. It may also be the parent that rows were missing, which matters only while
something is missing. -/
def appears (references : References) (row : Row) (violations : Int) : Int :=
  let counted := violations + references.missing row
  if counted = 0 then counted else counted - references.children row

/-- A row that disappears leaves its children without a parent, and takes its own lack of parents with it. -/
def disappears (references : References) (row : Row) (violations : Int) : Int :=
  let counted := if violations = 0 then violations else violations - references.missing row
  counted + references.children row

def requireNumber (value : Value) : Except EngineError Int :=
  match Affinity.integer.apply value with
  | .integer n => .ok n.toInt
  | _ => .error .datatypeMismatch

/-- The entry of a table with new values, its number among them where a column shows it. -/
def entryOf (table : Table) (number : Int) (values : Row) : Entry :=
  let entry : Entry := ⟨number, table.convert values⟩
  match table.numbering with
  | .column index => { entry with values := entry.values.set index entry.numberValue }
  | .absent | .named => entry

def requireValues (table : Table) (row : Row) : Except EngineError Unit :=
  match table.missing? row with
  | some column => .error (.notNull table.name column.name)
  | none => .ok ()

def requireNewNumber (table : Table) (number : Int) (others : List Entry) : Except EngineError Unit :=
  if others.any (·.number == number) then .error (.unique table.name [table.numberName]) else .ok ()

/-- No other row has the same values in a key, of those keys that are checked. -/
def requireNewKeys (table : Table) (checked : Key → Bool) (row : Row) (others : List Entry) :
    Except EngineError Unit :=
  (table.keys.reverse.filter checked).forM fun key =>
    let values := Relation.keyValues key row
    if others.any fun entry => Relation.agrees values entry.values then
      .error (.unique table.name (table.keyNames key))
    else .ok ()

/-- Puts an entry where its number belongs, the greatest first. -/
def place (entry : Entry) : List Entry → List Entry
  | [] => [entry]
  | first :: rest => if first.number < entry.number then entry :: first :: rest else first :: place entry rest

/-- The least positive number that no entry has. -/
def unusedNumber (entries : List Entry) : Int :=
  (((List.range (entries.length + 1)).map fun index : Nat => (index : Int) + 1).find? fun number =>
    entries.all (·.number != number)).getD 0

/-- One more than the greatest number, and one in an empty table. Past the greatest number of 64 bits any other that
is positive and unused will do. -/
def nextNumber (entries : List Entry) : Int :=
  match entries with
  | [] => 1
  | greatest :: _ =>
      if greatest.number < IntRange.signed64.high then greatest.number + 1 else unusedNumber entries

def insert (table : Table) (references : References) (progress : Progress) (number : Value) (values : Row) :
    Except EngineError Progress := do
  let number ← if number = .null then .ok none else some <$> requireNumber number
  let entry := entryOf table (number.getD (nextNumber progress.entries)) values
  requireValues table entry.values
  if number.isSome then requireNewNumber table entry.number progress.entries
  requireNewKeys table (fun _ => true) entry.values progress.entries
  return ⟨place entry progress.entries, appears references entry.values progress.violations, progress.changed + 1⟩

def delete (references : References) (chosen : Entry → Bool) (progress : Progress) : Progress :=
  let gone := progress.entries.reverse.filter chosen
  let violations :=
    gone.foldl (fun violations entry => disappears references entry.values violations) progress.violations
  ⟨progress.entries.filter fun entry => !chosen entry, violations, progress.changed + gone.length⟩

def updateEntry (table : Table) (references : References) (assignments : List Assignment) (progress : Progress)
    (entry : Entry) : Except EngineError Progress := do
  let number ← match Assignment.number? assignments with
    | some value => requireNumber value
    | none => .ok entry.number
  let updated := entryOf table number (Assignment.values assignments entry)
  let others := progress.entries.filter (·.number != entry.number)
  requireValues table updated.values
  requireNewNumber table number others
  requireNewKeys table (fun key => key.columns.any (Assignment.touches table assignments)) updated.values others
  let violations := appears references updated.values (disappears references entry.values progress.violations)
  return ⟨place updated others, violations, progress.changed + 1⟩

/-- Changes the chosen entries one after the other, so each is compared with those changed before it and with those
not changed yet. -/
def update (table : Table) (references : References) (assignments : List Assignment) (chosen : Entry → Bool)
    (progress : Progress) : Except EngineError Progress :=
  (progress.entries.reverse.filter chosen).foldlM (updateEntry table references assignments) progress

end Progress
end EntityStore.Engine
