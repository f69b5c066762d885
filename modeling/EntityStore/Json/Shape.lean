import EntityStore.Codec
import EntityStore.Json

/-! Reading JSON into typed values. A record is given by its fields or by an array of exactly its fields in
order. Of an object the known fields are checked in the order of their names before any missing field is
reported, and unknown fields are passed over. -/

namespace EntityStore

inductive ShapeError where
  | invalidType (found expected : String)
  | invalidValue (found expected : String)
  | unknownVariant (word : String) (known : List String)
  | missingField (name : String)
  | invalidLength (length : Nat) (expected : String)
  deriving DecidableEq, Repr

def ShapeError.message : ShapeError → String
  | .invalidType found expected => "invalid type: " ++ found ++ ", expected " ++ expected
  | .invalidValue found expected => "invalid value: " ++ found ++ ", expected " ++ expected
  | .unknownVariant word known =>
      "unknown variant `" ++ word ++ "`, expected one of " ++
        ", ".intercalate (known.map fun name => "`" ++ name ++ "`")
  | .missingField name => "missing field `" ++ name ++ "`"
  | .invalidLength length expected => "invalid length " ++ Text.Decimal.text length ++ ", expected " ++ expected

class Shape (α : Type) where
  ofJson : Json → Except ShapeError α
  toJson : α → Json
  /-- Whether a record may leave out a field of the type, which then is null. -/
  optional : Bool

namespace Shape

def mismatch (found : Json) (expected : String) : Except ShapeError α :=
  .error (.invalidType found.describe expected)

instance : Shape String where
  ofJson
    | .string content => .ok content
    | other => mismatch other "a string"
  toJson := .string
  optional := false

def integer (name : String) (range : IntRange) (ofInt : Int → α) (json : Json) : Except ShapeError α :=
  match json with
  | .integer n => if n ∈ range then .ok (ofInt n) else .error (.invalidValue json.describe name)
  | other => mismatch other name

instance : Shape Int32 where
  ofJson := integer "i32" .signed32 Int32.ofInt
  toJson n := .integer n.toInt
  optional := false

instance : Shape Int64 where
  ofJson := integer "i64" .signed64 Int64.ofInt
  toJson n := .integer n.toInt
  optional := false

instance : Shape UInt32 where
  ofJson := integer "u32" .unsigned32 fun n => UInt32.ofNat n.toNat
  toJson n := .integer n.toNat
  optional := false

instance : Shape UInt64 where
  ofJson := integer "u64" .unsigned64 fun n => UInt64.ofNat n.toNat
  toJson n := .integer n.toNat
  optional := false

instance [Shape α] : Shape (Option α) where
  ofJson
    | .null => .ok none
    | other => some <$> ofJson other
  toJson
    | some value => toJson value
    | none => .null
  optional := true

def items [Shape α] : List Json → Except ShapeError (List α)
  | [] => .ok []
  | item :: rest => do
      let first ← ofJson item
      let others ← items rest
      return first :: others

instance [Shape α] : Shape (List α) where
  ofJson
    | .array list => items list
    | other => mismatch other "a sequence"
  toJson list := .array (list.map toJson)
  optional := false

/-- A variant is given by its word, or by an object with the word as its only name and null under it. -/
instance [Variant α] : Shape α where
  ofJson
    | .string word => variant word
    | .object [(word, value)] => do
        let found ← variant word
        match value with
        | .null => return found
        | other => mismatch other "unit"
    | .object _ => .error (.invalidValue "map" "map with a single key")
    | other => mismatch other "string or map"
  toJson value := .string (Variant.word value)
  optional := false
where
  variant (word : String) : Except ShapeError α :=
    match Variant.ofWord? word with
    | some found => .ok found
    | none => .error (.unknownVariant word ((Variant.all : List α).map Variant.word))

/-- A field of a record: its name, whether it may be left out, and what is wrong with a value, if anything. -/
structure Field where
  name : String
  optional : Bool
  check : Json → Except ShapeError Unit

def field (α : Type) [Shape α] (name : String) : Field where
  name := name
  optional := Shape.optional α
  check json := (ofJson json : Except ShapeError α).map fun _ => ()

/-- What is wrong with the value under a name. An unknown name is passed over. -/
def checkEntry (known : List Field) (entry : String × Json) : Except ShapeError Unit :=
  match known.find? (·.name == entry.1) with
  | some field => field.check entry.2
  | none => return

def checkPresent (given : List (String × Json)) (field : Field) : Except ShapeError Unit :=
  if field.optional || given.any (·.1 == field.name) then return else .error (.missingField field.name)

def checkObject (known : List Field) (given : List (String × Json)) : Except ShapeError Unit := do
  given.forM (checkEntry known)
  known.forM (checkPresent given)

def checkArray (expected : String) (read : Nat) : List Field → List Json → Except ShapeError Unit
  | [], [] => return
  | [], rest => .error (.invalidLength (read + rest.length) "fewer elements in array")
  | _ :: _, [] => .error (.invalidLength read expected)
  | field :: fields, value :: rest => do
      field.check value
      checkArray expected (read + 1) fields rest

/-- How a message names the arrays that a record is read from. -/
def contents (name : String) (known : List Field) : String :=
  "struct " ++ name ++ " with " ++ Text.Decimal.text known.length ++
    if known.length = 1 then " element" else " elements"

/-- What stands under a name, null if nothing does. -/
def under (given : List (String × Json)) (name : String) : Json := (given.lookup name).getD .null

/-- What stands under every name, once all fields are known to fit. -/
def record (name : String) (known : List Field) (json : Json) : Except ShapeError (String → Json) :=
  match json with
  | .object given => do
      checkObject known given
      return under given
  | .array values => do
      checkArray (contents name known) 0 known values
      return under ((known.map (·.name)).zip values)
  | other => mismatch other ("struct " ++ name)

/-- How a record type is read and written. Fields and members stand in the order of declaration. -/
structure Layout (α : Type) where
  name : String
  fields : List Field
  /-- The value that is made of what stands under the names. -/
  assemble : (String → Json) → Except ShapeError α
  /-- The names and values that are written. -/
  members : α → List (String × Json)

@[reducible] def Layout.shape (layout : Layout α) : Shape α where
  ofJson json := do layout.assemble (← record layout.name layout.fields json)
  toJson value := .object (layout.members value)
  optional := false

end Shape
end EntityStore
