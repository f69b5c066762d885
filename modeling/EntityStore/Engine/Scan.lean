import EntityStore.Engine.Relation

/-! Reading a relation under one condition. Rows are met by number or in the order of a key, and an order asked for
keeps the order of rows that it does not tell apart. -/

namespace EntityStore.Engine

/-- What to read: the rows where an operand equals a value, some operands of each, in the order of others. -/
structure Reading where
  condition : Operand
  value : Value
  outputs : List Operand
  order : List Operand

def Entry.order (places : List Place) (a b : Entry) : Ordering :=
  places.foldr (fun place rest => ((a.get place).order (b.get place)).then rest) .eq

namespace Relation

def keyPlaces (relation : Relation) (key : Key) : List Place := key.columns.map relation.placeOf

def leads (relation : Relation) (place : Place) (key : Key) : Bool := (relation.keyPlaces key).head? == some place

def width (relation : Relation) : Nat :=
  let columns := (relation.columns.map (·.width)).foldl (· + ·) 0
  match relation.numbering with
  | .column _ => columns
  | .absent | .named => columns + 1

def keyWidth (relation : Relation) (key : Key) : Nat :=
  (key.columns.map fun index => ((relation.columns[index]?).map (·.width)).getD 0).foldl (· + ·) 1

/-- Whether a key holds all that a reading uses in less room than a row takes. -/
def covers (relation : Relation) (reading : Reading) (key : Key) : Bool :=
  let held := .number :: relation.keyPlaces key
  let used := (reading.condition :: (reading.outputs ++ reading.order)).filterMap (·.place?)
  relation.keyWidth key < relation.width && used.all held.contains

/-- The key in whose order rows are met, if it is not the order of their numbers: one led by the condition, else one
led by the order asked for, else one that holds all that is used. -/
def path? (relation : Relation) (reading : Reading) : Option Key :=
  let led (operand : Option Operand) : Option Key :=
    (operand.bind (·.place?)).bind fun place => relation.keys.find? (relation.leads place)
  if reading.condition = .stored .number then none
  else
    led (some reading.condition) <|> led (reading.order.find? (·.place?.isSome)) <|>
      relation.keys.find? (relation.covers reading)

/-- Sorts entries, keeping the order of those that no place tells apart. -/
def sort (places : List Place) (entries : List Entry) : List Entry :=
  match places with
  | [] => entries
  | _ => entries.mergeSort fun a b => Entry.order places a b != .gt

def scan (relation : Relation) (reading : Reading) : List Entry :=
  let chosen := (relation.entries.filter (reading.condition.equals relation reading.value)).reverse
  let met := match relation.path? reading with
    | some key => sort (relation.keyPlaces key) chosen
    | none => chosen
  sort (reading.order.filterMap (·.place?)) met

def read (relation : Relation) (reading : Reading) : List Row :=
  (relation.scan reading).map fun entry => reading.outputs.map fun output => output.value entry

end Relation
end EntityStore.Engine
