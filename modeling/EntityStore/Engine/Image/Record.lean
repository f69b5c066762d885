import EntityStore.Cursor

/-! Records: the values of a row as a file holds them. A record opens with the kinds of its values, and the values
follow in the same order. Numbers have their highest octet first. -/

namespace EntityStore.Engine.Image

def natural (octets : List UInt8) : Nat := octets.foldl (fun n octet => n * 256 + octet.toNat) 0

/-- The octets as a number in two's complement. -/
def integer (octets : List UInt8) : Int := Int.bmod (natural octets) (Nat.pow 256 octets.length)

/-- A number in groups of seven bits. Every octet but the last has its high bit set, and a ninth one counts with all
its bits. -/
def varint? : Nat → Nat → List UInt8 → Option (Nat × List UInt8)
  | _, _, [] => none
  | 0, read, octet :: rest => some (read * 256 + octet.toNat, rest)
  | left + 1, read, octet :: rest =>
      let n := octet.toNat
      if n < 128 then some (read * 128 + n, rest) else varint? left (read * 128 + (n - 128)) rest

def number? (octets : List UInt8) : Option (Nat × List UInt8) := varint? 8 0 octets

/-- How many octets a value of a kind takes. -/
def size (kind : Nat) : Nat :=
  match kind with
  | 1 => 1
  | 2 => 2
  | 3 => 3
  | 4 => 4
  | 5 => 6
  | 6 | 7 => 8
  | _ => if kind < 12 then 0 else (kind - 12) / 2

/-- A real that is no number stands for NULL. -/
def real (x : Binary64) : Value := if x.isNaN then .null else .real x

def value (kind : Nat) (octets : List UInt8) : Value :=
  match kind with
  | 0 | 10 | 11 => .null
  | 7 => real ⟨UInt64.ofNat (natural octets)⟩
  | 8 => .integer 0
  | 9 => .integer 1
  | _ =>
      if kind < 7 then .integer (Int64.ofInt (integer octets))
      else if kind % 2 = 0 then .blob octets
      else .text (Text.Utf8.text octets)

def kinds : Nat → List UInt8 → List Nat
  | 0, _ => []
  | fuel + 1, octets =>
      match number? octets with
      | some (kind, rest) => kind :: kinds fuel rest
      | none => []

def values : List Nat → List UInt8 → Row
  | [], _ => []
  | kind :: rest, octets => value kind (octets.take (size kind)) :: values rest (octets.drop (size kind))

/-- The values of a record. One that does not say how long its opening is has none. -/
def record (octets : List UInt8) : Row :=
  match number? octets with
  | none => []
  | some (length, rest) =>
      let opening := rest.take (length - (octets.length - rest.length))
      values (kinds opening.length opening) (octets.drop length)

end EntityStore.Engine.Image
