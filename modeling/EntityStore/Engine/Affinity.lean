import EntityStore.Binary64.Text
import EntityStore.IntRange
import EntityStore.Text.Decimal
import EntityStore.Text.Numeral
import EntityStore.Text.Search
import EntityStore.Value

/-! How the engine converts values. A column prefers one storage class and converts what it stores where nothing
is lost; conditions and comparisons have conversions of their own. -/

namespace EntityStore

inductive Affinity where
  | text
  | integer
  | real
  /-- Keeps every value as it is. -/
  | plain
  deriving DecidableEq, Repr

namespace Affinity

/-- The affinity that a declared type asks for by the first of these words that it contains. A column without a
type is plain, and words of no meaning here ask for numbers. -/
def ofType (type : String) : Affinity :=
  let letters := type.toUpper.toList
  let contains (word : String) : Bool := Text.occurs word.toList letters
  if contains "INT" then .integer
  else if contains "CHAR" || contains "CLOB" || contains "TEXT" then .text
  else if letters.isEmpty || contains "BLOB" then .plain
  else if contains "REAL" || contains "FLOA" || contains "DOUB" then .real
  else .integer

/-- A real that is an integer strictly between the ends of the range becomes that integer. -/
def ofReal (x : Binary64) : Value :=
  match x.integer? with
  | some n => if IntRange.signed64.low < n ∧ n < IntRange.signed64.high then .integer (Int64.ofInt n) else .real x
  | none => .real x

def ofNumeral (numeral : Text.Numeral) : Value :=
  match numeral.integer? with
  | some n => if n ∈ IntRange.signed64 then .integer (Int64.ofInt n) else ofReal numeral.real
  | none => ofReal numeral.real

/-- What a column keeps of a value. Text columns turn numbers into text. Integer columns turn numeric text and
reals into integers, or text into reals where there is no such integer, and real columns turn integers into reals
as well. NULL and blobs stay. -/
def apply : Affinity → Value → Value
  | .text, .integer n => .text (Text.Decimal.text n.toInt)
  | .text, .real x => .text x.fifteenText
  | .integer, .text content =>
      match Text.Numeral.ofText? content.toList with
      | some numeral => ofNumeral numeral
      | none => .text content
  | .integer, .real x => ofReal x
  | .real, .text content =>
      match Text.Numeral.ofText? content.toList with
      | some numeral => .real numeral.real
      | none => .text content
  | .real, .integer n => .real (.ofInt n.toInt)
  | _, value => value

end Affinity

namespace Value

/-- A parameter that is not a number is bound as NULL. -/
def parameter : Value → Value
  | .real x => if x.isNaN then .null else .real x
  | value => value

/-- Whether a condition holds. Text and blobs count as the number at their front, and NULL does not hold. -/
def holds : Value → Bool
  | .null => false
  | .integer n => n != 0
  | .real x => !x.isZero
  | .text content => numberHolds content.toList
  | .blob octets => numberHolds (octets.map fun octet => Char.ofNat octet.toNat)
where
  numberHolds (text : List Char) : Bool :=
    match Text.Numeral.read? text with
    | some (numeral, _) => !numeral.real.isZero
    | none => false

/-- Equality of values that are not NULL. Nothing equals NULL. -/
def same : Value → Value → Bool
  | .null, _ | _, .null => false
  | .integer m, .integer n => m == n
  | .text s, .text t => s == t
  | .blob a, .blob b => a == b
  | .real x, .real y => x.order y == .eq
  | .integer m, .real x | .real x, .integer m => x.orderInt m.toInt == .eq
  | _, _ => false

end Value
end EntityStore
