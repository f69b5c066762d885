import EntityStore.Codec

/-! How entities are laid out over tables. A schema names a parent table with its columns and one table for
each collection, whose rows hold an id, the place of an element from zero, and the element. -/

namespace EntityStore

/-- A scalar field and the column of the parent table that stores it. -/
structure Column where
  field : String
  name : String
  deriving DecidableEq, Repr

/-- A repeated field and the table that stores its elements. -/
structure Collection where
  field : String
  table : String
  deriving DecidableEq, Repr

structure Schema where
  table : String
  idColumn : String
  columns : List Column
  collections : List Collection
  deriving DecidableEq, Repr

namespace Collection

def idColumn : String := "id"

def ordinalityColumn : String := "ordinality"

def valueColumn : String := "value"

def columnNames : List String := [idColumn, ordinalityColumn, valueColumn]

end Collection

/-- The id column first, then the scalar columns. -/
def Schema.columnNames (schema : Schema) : List String := schema.idColumn :: schema.columns.map (·.name)

/-- An entity type over a schema. Values of scalar fields stand in the order of the columns; a parent row
holds the id before them. Collections are numbered by their place in the schema. -/
structure Mapping (E : Type) where
  schema : Schema
  id : E → String
  encodeColumns : E → List Value
  decodeRow : List Value → Except CodecError E
  encodeCollection : E → Nat → List Value
  decodeCollection : E → Nat → List Value → Except CodecError E

/-- An entity of any schema, which carries its stored values themselves. -/
structure Record where
  id : String
  columns : List Value
  collections : List (List Value)
  deriving DecidableEq, Repr

namespace Record

/-- The values of columns one to `count`. -/
def decodeColumns (row : List Value) : Nat → Except CodecError (List Value)
  | 0 => .ok []
  | count + 1 => do
      let before ← decodeColumns row count
      let last ← Codec.column row (count + 1)
      return before ++ [last]

def mapping (schema : Schema) : Mapping Record where
  schema := schema
  id := Record.id
  encodeColumns := Record.columns
  decodeRow row := do
    let id ← Scalar.decode (← Codec.column row 0)
    let columns ← decodeColumns row schema.columns.length
    return ⟨id, columns, schema.collections.map fun _ => []⟩
  encodeCollection record index := (record.collections[index]?).getD []
  decodeCollection record index values :=
    .ok { record with collections := record.collections.set index values }

end Record
end EntityStore
