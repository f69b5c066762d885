/-! Random identifiers: 128 bits in hexadecimal digits, of which one digit tells the version and the first two bits
of another the variant. -/

namespace EntityStore.Uuid

def digit (n : Nat) : Char := (Nat.digitChar (n % 16))

/-- So many digits of a number, the lowest last. -/
def digits : Nat → Nat → List Char
  | 0, _ => []
  | count + 1, n => digits count (n / 16) ++ [digit n]

/-- Version four, of the variant whose digit is eight, nine, a or b. -/
def random (bits : Nat) : String :=
  let third := 0x4000 + (bits >>> 64) % 0x1000
  let fourth := 0x8000 + (bits >>> 48) % 0x4000
  "-".intercalate ([digits 8 (bits >>> 96), digits 4 (bits >>> 80), digits 4 third, digits 4 fourth,
    digits 12 bits].map String.ofList)

end EntityStore.Uuid
