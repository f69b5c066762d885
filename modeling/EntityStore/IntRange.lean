/-! Ranges of integers, with those that machine integers of 32 and 64 bits can hold. -/

namespace EntityStore

/-- The integers between two bounds, both included. -/
structure IntRange where
  low : Int
  high : Int
  deriving DecidableEq, Repr

namespace IntRange

instance : Membership Int IntRange where
  mem range n := range.low ≤ n ∧ n ≤ range.high

instance (range : IntRange) (n : Int) : Decidable (n ∈ range) :=
  inferInstanceAs (Decidable (range.low ≤ n ∧ n ≤ range.high))

/-- The integer of the range that is nearest. -/
def clamp (range : IntRange) (n : Int) : Int := max range.low (min n range.high)

def signed32 : IntRange := ⟨-0x80000000, 0x7FFFFFFF⟩

def signed64 : IntRange := ⟨-0x8000000000000000, 0x7FFFFFFFFFFFFFFF⟩

def unsigned32 : IntRange := ⟨0, 0xFFFFFFFF⟩

def unsigned64 : IntRange := ⟨0, 0xFFFFFFFFFFFFFFFF⟩

end IntRange
end EntityStore
