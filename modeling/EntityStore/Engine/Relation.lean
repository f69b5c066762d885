import EntityStore.Cursor
import EntityStore.Engine.Affinity
import EntityStore.Engine.Error

/-! Relations: numbered rows under named columns. A statement names places in a row, which are its columns and, by
names of its own, its number. Names are compared without regard to case. Every column is stored: generated columns and
temporary tables are left out. -/

namespace EntityStore.Engine

def sameName (a b : String) : Bool := a.toLower == b.toLower

structure Column where
  name : String
  /-- The declared type, which decides how values are converted. -/
  type : String
  required : Bool
  affinity : Affinity := .ofType type
  /-- What a new row has where it is given nothing. -/
  default : Value := .null
  deriving DecidableEq, Repr

namespace Column

/-- The size that a type allows for, in characters. -/
def size? (type : String) : Option Nat :=
  Text.Decimal.natural? ((type.toList.dropWhile fun c => !c.isDigit).takeWhile Char.isDigit)

/-- How much room the engine expects a value to take, in units of four octets. -/
def width (column : Column) : Nat :=
  match column.affinity with
  | .integer | .real => 1
  | .text | .plain =>
      if column.type.isEmpty then 1
      else if Text.occurs "CHAR".toList column.type.toUpper.toList then min 255 ((size? column.type).getD 0 / 4 + 1)
      else 5

end Column

/-- A row and its number, which no other row of the relation has. Numbers have 64 bits while any are left. -/
structure Entry where
  number : Int
  values : Row
  deriving DecidableEq, Repr

/-- Columns whose values together are different in every row. -/
structure Key where
  columns : List Nat
  primary : Bool
  deriving DecidableEq, Repr

/-- How the number of a row can be named: not at all, by names of its own only, or also as a column. -/
inductive Numbering where
  | absent
  | named
  | column (index : Nat)
  deriving DecidableEq, Repr

/-- Rows with the greatest number first. -/
structure Relation where
  columns : List Column
  numbering : Numbering
  keys : List Key
  entries : List Entry
  /-- Whether the rows could be read from where they are kept. -/
  intact : Bool
  deriving DecidableEq, Repr

inductive Place where
  | column (index : Nat)
  | number
  deriving DecidableEq, Repr

/-- The value of a column, which is NULL where a row is too short. -/
def cell : Row → Nat → Value
  | [], _ => .null
  | value :: _, 0 => value
  | _ :: rest, index + 1 => cell rest index

def Entry.numberValue (entry : Entry) : Value := .integer (Int64.ofInt entry.number)

def Entry.get (entry : Entry) : Place → Value
  | .column index => cell entry.values index
  | .number => entry.numberValue

namespace Relation

/-- Names of the number of a row, where no column has them. -/
def numberNames : List String := ["rowid", "oid", "_rowid_"]

def columnIndex? (relation : Relation) (name : String) : Option Nat :=
  relation.columns.findIdx? fun column => sameName column.name name

def place? (relation : Relation) (name : String) : Option Place :=
  match relation.columnIndex? name with
  | some index => if relation.numbering = .column index then some .number else some (.column index)
  | none =>
      if relation.numbering ≠ .absent ∧ numberNames.any (sameName name) then some .number else none

def affinity (relation : Relation) : Place → Affinity
  | .column index => ((relation.columns[index]?).map (·.affinity)).getD .plain
  | .number => .integer

def placeOf (relation : Relation) (index : Nat) : Place :=
  if relation.numbering = .column index then .number else .column index

def numberName (relation : Relation) : String :=
  match relation.numbering with
  | .column index => ((relation.columns[index]?).map (·.name)).getD "rowid"
  | .absent | .named => "rowid"

def requireIntact (relation : Relation) : Except EngineError Unit :=
  if relation.intact then .ok () else .error .malformed

/-- The values as the columns keep them. -/
def convert (relation : Relation) (row : Row) : Row :=
  relation.columns.zipWith (fun column value => column.affinity.apply value) row

def missing? (relation : Relation) (row : Row) : Option Column :=
  ((relation.columns.zip row).find? fun (column, value) => column.required && value == .null).map (·.1)

def keyNames (relation : Relation) (key : Key) : List String :=
  key.columns.filterMap fun index => (relation.columns[index]?).map (·.name)

def agrees : List (Nat × Value) → Row → Bool
  | [], _ => true
  | (index, value) :: rest, row => (cell row index).same value && agrees rest row

/-- The values of a row in the columns of a key, the last column first, because it tells rows apart best. -/
def keyValues (key : Key) (row : Row) : List (Nat × Value) :=
  key.columns.reverse.map fun index => (index, cell row index)

end Relation

/-- A place of the rows at hand, or text where no place has the name. -/
inductive Operand where
  | stored (place : Place)
  | literal (text : String)
  deriving DecidableEq, Repr

namespace Operand

def ofName (relation : Relation) (name : String) : Operand :=
  match relation.place? name with
  | some place => .stored place
  | none => .literal name

def place? : Operand → Option Place
  | .stored place => some place
  | .literal _ => none

def value (operand : Operand) (entry : Entry) : Value :=
  match operand with
  | .stored place => entry.get place
  | .literal text => .text text

/-- Whether an entry has the value, converted as its place converts what it is compared with. -/
def equals (relation : Relation) (operand : Operand) (value : Value) : Entry → Bool :=
  match operand with
  | .stored place =>
      let wanted := (relation.affinity place).apply value
      fun entry => (entry.get place).same wanted
  | .literal text =>
      let found := (Value.text text).same value
      fun _ => found

end Operand
end EntityStore.Engine
