/-! UTF-8 octets. Encoding is exact. Decoding never fails: every maximal run of octets that begins a
character without finishing it, and every octet that begins none, becomes one replacement character. -/

namespace EntityStore.Text.Utf8

def replacement : Char := '\uFFFD'

def encodeChar (c : Char) : List UInt8 :=
  let n := c.toNat
  let octet (base shift : Nat) (width : Nat) : UInt8 := UInt8.ofNat (base + n / shift % width)
  if n < 0x80 then [UInt8.ofNat n]
  else if n < 0x800 then [octet 0xC0 64 32, octet 0x80 1 64]
  else if n < 0x10000 then [octet 0xE0 4096 16, octet 0x80 64 64, octet 0x80 1 64]
  else [octet 0xF0 262144 8, octet 0x80 4096 64, octet 0x80 64 64, octet 0x80 1 64]

def encode (text : List Char) : List UInt8 := text.flatMap encodeChar

/-- What the first octet of a character promises: how many octets follow, the range the next one must
lie in, and the bits it contributes. -/
structure Lead where
  following : Nat
  low : UInt8
  high : UInt8
  bits : Nat

def lead? (octet : UInt8) : Option Lead :=
  let n := octet.toNat
  if n < 0x80 then some ⟨0, 0x80, 0xBF, n⟩
  else if n < 0xC2 then none
  else if n < 0xE0 then some ⟨1, 0x80, 0xBF, n - 0xC0⟩
  else if n = 0xE0 then some ⟨2, 0xA0, 0xBF, 0⟩
  else if n = 0xED then some ⟨2, 0x80, 0x9F, 0xD⟩
  else if n < 0xF0 then some ⟨2, 0x80, 0xBF, n - 0xE0⟩
  else if n = 0xF0 then some ⟨3, 0x90, 0xBF, 0⟩
  else if n < 0xF4 then some ⟨3, 0x80, 0xBF, n - 0xF0⟩
  else if n = 0xF4 then some ⟨3, 0x80, 0x8F, 4⟩
  else none

/-- Takes the promised octets while they fit, and stops before the first that does not. -/
def finish : Nat → UInt8 → UInt8 → Nat → List UInt8 → Char × List UInt8
  | 0, _, _, bits, rest => (Char.ofNat bits, rest)
  | _ + 1, _, _, _, [] => (replacement, [])
  | following + 1, low, high, bits, octet :: rest =>
      if low ≤ octet ∧ octet ≤ high then
        finish following 0x80 0xBF (bits * 64 + octet.toNat % 64) rest
      else (replacement, octet :: rest)

theorem length_finish (following : Nat) (low high : UInt8) (bits : Nat) (octets : List UInt8) :
    (finish following low high bits octets).2.length ≤ octets.length := by
  induction following generalizing low high bits octets with
  | zero => simp [finish]
  | succ following ih =>
    cases octets with
    | nil => simp [finish]
    | cons octet rest =>
      simp only [finish]
      split
      · exact Nat.le_succ_of_le (ih ..)
      · exact Nat.le_refl _

def decode : List UInt8 → List Char
  | [] => []
  | octet :: rest =>
      match lead? octet with
      | none => replacement :: decode rest
      | some lead =>
          let step := finish lead.following lead.low lead.high lead.bits rest
          step.1 :: decode step.2
termination_by octets => octets.length
decreasing_by
  · simp
  · exact Nat.lt_succ_of_le (length_finish ..)

def text (octets : List UInt8) : String := String.ofList (decode octets)

end EntityStore.Text.Utf8
