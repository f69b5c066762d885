import EntityStore.Calendar
import EntityStore.IntRange
import EntityStore.Text.Decimal
import EntityStore.Value

/-! Conversion between domain scalars and storage values. The zero value of a type is stored as NULL, and
NULL reads back as that zero value. A value that does not fit is an error and never a default. -/

namespace EntityStore

/-- Why a stored value cannot be read as a domain value. -/
inductive CodecError where
  | unexpectedType (expected found : String)
  | unexpectedNull (expected : String)
  | outOfRange (target : String) (value : Int64)
  | invalidUnsigned (text : String)
  | invalidDate (text : String)
  | unknownVariant (name : String) (value : Int32)
  | missingColumn (index : Nat)
  deriving DecidableEq, Repr

def CodecError.message : CodecError → String
  | .unexpectedType expected found => "expected " ++ expected ++ " storage value, found " ++ found
  | .unexpectedNull expected => "unexpected NULL for " ++ expected ++ " value"
  | .outOfRange target value =>
      "stored integer " ++ Text.Decimal.text value.toInt ++ " does not fit in " ++ target
  | .invalidUnsigned text => "stored text `" ++ text ++ "` is not a base-10 unsigned 64-bit integer"
  | .invalidDate text => "stored text `" ++ text ++ "` is not a YYYY-MM-DD date"
  | .unknownVariant name value =>
      "stored value " ++ Text.Decimal.text value.toInt ++ " is not a known " ++ name ++ " variant"
  | .missingColumn index => "result row has no column " ++ Text.Decimal.text index

class Scalar (α : Type) where
  encode : α → Value
  decode : Value → Except CodecError α

/-- An enumeration whose variants have names and numbers. The number zero is the unset variant. -/
class Variant (α : Type) where
  typeName : String
  all : List α
  word : α → String
  number : α → Int32

namespace Variant
variable {α : Type} [Variant α]

def ofNumber? (number : Int32) : Option α := (all : List α).find? fun variant => Variant.number variant == number

def ofWord? (word : String) : Option α := (all : List α).find? fun variant => Variant.word variant == word

end Variant

namespace Codec
open Scalar

def unexpected (expected : String) (found : Value) : CodecError := .unexpectedType expected found.kind

def encodeText (text : String) : Value := if text.isEmpty then .null else .text text

def encodeInteger (n : Int64) : Value := if n = 0 then .null else .integer n

def decodeInteger : Value → Except CodecError Int64
  | .null => .ok 0
  | .integer n => .ok n
  | other => .error (unexpected "integer" other)

def decodeRange (target : String) (range : IntRange) (ofInt : Int → α) (value : Value) : Except CodecError α := do
  let n ← decodeInteger value
  if n.toInt ∈ range then .ok (ofInt n.toInt) else .error (.outOfRange target n)

def column (row : List Value) (index : Nat) : Except CodecError Value :=
  match row[index]? with
  | some value => .ok value
  | none => .error (.missingColumn index)

instance : Scalar String where
  encode := encodeText
  decode
    | .null => .ok ""
    | .text content => .ok content
    | other => .error (unexpected "text" other)

instance : Scalar Int64 where
  encode := encodeInteger
  decode := decodeInteger

instance : Scalar Int32 where
  encode n := encodeInteger (Int64.ofInt n.toInt)
  decode := decodeRange "i32" .signed32 Int32.ofInt

instance : Scalar UInt32 where
  encode n := encodeInteger (Int64.ofInt n.toNat)
  decode := decodeRange "u32" .unsigned32 fun n => UInt32.ofNat n.toNat

/-- Unsigned integers of 64 bits are stored as decimal text, which keeps all of them exact. -/
instance : Scalar UInt64 where
  encode n := if n = 0 then .null else .text (Text.Decimal.text n.toNat)
  decode
    | .null => .ok 0
    | .text content =>
        match Text.Decimal.unsigned? UInt64.size content.toList with
        | some n => .ok (UInt64.ofNat n)
        | none => .error (.invalidUnsigned content)
    | .integer n => if 0 ≤ n.toInt then .ok (UInt64.ofNat n.toInt.toNat) else .error (.outOfRange "u64" n)
    | other => .error (unexpected "text" other)

/-- Year of four places, month and day of two, with dashes between. -/
def dateText (date : Date) : List Char :=
  Text.Decimal.padded 4 date.year.toInt ++ '-' :: Text.Decimal.padded 2 date.month.toInt ++
    '-' :: Text.Decimal.padded 2 date.day.toInt

/-- The texts before and after the first dash. -/
def splitDash (text : List Char) : Option (List Char × List Char) :=
  match text.span (· != '-') with
  | (before, _ :: after) => some (before, after)
  | (_, []) => none

/-- A numeral with its sign that lies in 32 bits. -/
def narrow? (negative : Bool) (digits : List Char) : Option Int32 := do
  let magnitude ← Text.Decimal.natural? digits
  let n : Int := if negative then -(magnitude : Int) else magnitude
  if n ∈ IntRange.signed32 then some (Int32.ofInt n) else none

/-- Three numerals with dashes between, of which only the first may have a sign. -/
def date? (text : List Char) : Option Date := do
  let (negative, unsigned) := match text with
    | '-' :: rest => (true, rest)
    | _ => (false, text)
  let (year, rest) ← splitDash unsigned
  let (month, day) ← splitDash rest
  return ⟨← narrow? negative year, ← narrow? false month, ← narrow? false day⟩

instance : Scalar Date where
  encode date := .text (String.ofList (dateText date))
  decode
    | .null => .error (.unexpectedNull "date")
    | .text content =>
        match date? content.toList with
        | some date => .ok date
        | none => .error (.invalidDate content)
    | other => .error (unexpected "text" other)

instance : Scalar (Option Date) where
  encode
    | some date => encode date
    | none => .null
  decode
    | .null => .ok none
    | other => some <$> decode other

/-- The epoch is a present value, so zero microseconds are stored as they are. -/
instance : Scalar (Option Timestamp) where
  encode
    | some time => .integer time.asMicros
    | none => .null
  decode
    | .null => .ok none
    | .integer micros => .ok (some (.fromMicros micros))
    | other => .error (unexpected "integer" other)

/-- Enumerations are stored by number, so the unset variant is NULL. -/
instance (priority := low) [Variant α] : Scalar α where
  encode variant := encode (Variant.number variant)
  decode value := do
    let number : Int32 ← decode value
    match Variant.ofNumber? number with
    | some variant => .ok variant
    | none => .error (.unknownVariant (Variant.typeName α) number)

def decodeAll [Scalar α] : List Value → Except CodecError (List α)
  | [] => .ok []
  | value :: rest => do
      let first ← decode value
      let others ← decodeAll rest
      return first :: others

end Codec
end EntityStore
