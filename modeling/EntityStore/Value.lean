import EntityStore.Binary64
import EntityStore.Text.Utf8

/-! Storage values. A value is what a statement binds and a row holds. The engine keeps text as octets,
which need not be well formed; reading such a cell replaces what is malformed. -/

namespace EntityStore

inductive Value where
  | null
  | integer (n : Int64)
  | real (x : Binary64)
  | text (content : String)
  | blob (octets : List UInt8)
  deriving DecidableEq, Repr

namespace Value

def ofBool (flag : Bool) : Value := .integer (if flag then 1 else 0)

def kind : Value → String
  | .null => "null"
  | .integer _ => "integer"
  | .real _ => "real"
  | .text _ => "text"
  | .blob _ => "blob"

/-- Equality of content. Reals compare as numbers, so a NaN differs from itself. -/
def equal : Value → Value → Bool
  | .real x, .real y => x.equal y
  | x, y => x == y

/-- NULL stands before numbers, numbers before text, and text before blobs. -/
def order : Value → Value → Ordering
  | .null, .null => .eq
  | .null, _ => .lt
  | _, .null => .gt
  | .integer m, .integer n => compare m.toInt n.toInt
  | .integer m, .real y => (y.orderInt m.toInt).swap
  | .real x, .integer n => x.orderInt n.toInt
  | .real x, .real y => x.order y
  | .integer _, _ | .real _, _ => .lt
  | _, .integer _ | _, .real _ => .gt
  | .text s, .text t => compare s t
  | .text _, .blob _ => .lt
  | .blob _, .text _ => .gt
  | .blob a, .blob b => compare a b

end Value

/-- A value as a statement binds it and a row keeps it. -/
inductive Cell where
  | null
  | integer (n : Int64)
  | real (x : Binary64)
  | text (octets : List UInt8)
  | blob (octets : List UInt8)
  deriving DecidableEq, Repr

def Value.bind : Value → Cell
  | .null => .null
  | .integer n => .integer n
  | .real x => .real x
  | .text content => .text (Text.Utf8.encode content.toList)
  | .blob octets => .blob octets

def Cell.value : Cell → Value
  | .null => .null
  | .integer n => .integer n
  | .real x => .real x
  | .text octets => .text (Text.Utf8.text octets)
  | .blob octets => .blob octets

end EntityStore
