import EntityStore.Binary64.Text
import EntityStore.Text.Literal

/-! JSON values. Integers and floating point numbers are different values. An object that is read has its fields in
the order of their names, one that is built keeps them as they were put. -/

namespace EntityStore

inductive Json where
  | null
  | bool (flag : Bool)
  | integer (n : Int)
  | real (x : Binary64)
  | string (content : String)
  | array (items : List Json)
  | object (fields : List (String × Json))
  deriving Repr

namespace Json

/-- Adds a field in its place. A later value for a name takes the place of an earlier one. -/
def insertField (name : String) (value : Json) : List (String × Json) → List (String × Json)
  | [] => [(name, value)]
  | field :: rest =>
      if name < field.1 then (name, value) :: field :: rest
      else if name = field.1 then (name, value) :: rest
      else field :: insertField name value rest

def ofFields (fields : List (String × Json)) : Json :=
  .object (fields.foldl (fun sorted field => insertField field.1 field.2 sorted) [])

/-- How a message names a value that it did not expect. -/
def describe : Json → String
  | .null => "null"
  | .bool flag => "boolean `" ++ (if flag then "true" else "false") ++ "`"
  | .integer n => "integer `" ++ Text.Decimal.text n ++ "`"
  | .real x => "floating point `" ++ x.shortestText ++ "`"
  | .string content => "string " ++ Text.Literal.literal content
  | .array _ => "sequence"
  | .object _ => "map"

end Json
end EntityStore
