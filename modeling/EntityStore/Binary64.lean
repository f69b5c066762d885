/-! Binary floating point numbers of 64 bits, kept as their bit patterns. A finite pattern denotes an
integer times a power of two, and all comparisons are made on those integers. -/

namespace EntityStore

structure Binary64 where
  bits : UInt64
  deriving DecidableEq, Repr

namespace Binary64

def twoTo (exponent : Nat) : Nat := Nat.pow 2 exponent

def tenTo (exponent : Nat) : Nat := Nat.pow 10 exponent

/-- The bit pattern that has nothing but the sign. -/
def signBit : Nat := twoTo 63

/-- The significand that a pattern leaves out where its exponent is not zero. -/
def hiddenBit : Nat := twoTo 52

def negative (x : Binary64) : Bool := signBit ≤ x.bits.toNat

def exponentField (x : Binary64) : Nat := x.bits.toNat / hiddenBit % 2048

def fraction (x : Binary64) : Nat := x.bits.toNat % hiddenBit

def isNaN (x : Binary64) : Bool := x.exponentField == 2047 && x.fraction != 0

def isInfinite (x : Binary64) : Bool := x.exponentField == 2047 && x.fraction == 0

/-- A finite number is its significand times two to its power, with its sign. -/
def significand (x : Binary64) : Nat :=
  if x.exponentField = 0 then x.fraction else hiddenBit + x.fraction

def power (x : Binary64) : Int :=
  if x.exponentField = 0 then -1074 else (x.exponentField : Int) - 1075

def isZero (x : Binary64) : Bool := x.exponentField == 0 && x.fraction == 0

/-- Numeric equality: zeros of both signs are equal, and nothing equals a NaN. -/
def equal (x y : Binary64) : Bool :=
  !x.isNaN && !y.isNaN && (x.bits == y.bits || (x.isZero && y.isZero))

/-- The signed significand in units of two to the given power, which is at most the number's own. -/
def scaled (x : Binary64) (unit : Int) : Int :=
  let magnitude : Int := x.significand * twoTo (x.power - unit).toNat
  if x.negative then -magnitude else magnitude

/-- Order of numbers that are not NaN. -/
def order (x y : Binary64) : Ordering :=
  if x.isInfinite then
    if y.isInfinite ∧ y.negative = x.negative then .eq else if x.negative then .lt else .gt
  else if y.isInfinite then
    if y.negative then .gt else .lt
  else
    let unit := min x.power y.power
    compare (x.scaled unit) (y.scaled unit)

def orderInt (x : Binary64) (n : Int) : Ordering :=
  if x.isInfinite then
    if x.negative then .lt else .gt
  else
    let unit := min x.power 0
    compare (x.scaled unit) (n * twoTo (-unit).toNat)

/-- The integer that the number is, if it is one. -/
def integer? (x : Binary64) : Option Int :=
  if x.exponentField = 2047 then none
  else
    let unit := min x.power 0
    let scaled := x.scaled unit
    let denominator : Int := twoTo (-unit).toNat
    if scaled % denominator = 0 then some (scaled / denominator) else none

/-- The quotient rounded to the nearest integer, halves to the even neighbour. -/
def roundHalfEven (numerator denominator : Nat) : Nat :=
  let quotient := numerator / denominator
  let twice := 2 * (numerator % denominator)
  if twice < denominator then quotient
  else if twice > denominator then quotient + 1
  else quotient + quotient % 2

def ofQuotient (negative : Bool) (numerator denominator : Nat) : Binary64 :=
  let sign : Nat := if negative then signBit else 0
  if numerator = 0 then ⟨UInt64.ofNat sign⟩
  else
    let guess : Int := (numerator.log2 : Int) - denominator.log2
    let reached : Bool :=
      denominator * twoTo guess.toNat ≤ numerator * twoTo (-guess).toNat
    let power := max ((if reached then guess else guess - 1) - 52) (-1074)
    let significand := roundHalfEven (numerator * twoTo (-power).toNat) (denominator * twoTo power.toNat)
    let word :=
      if significand < hiddenBit then significand
      else (power + 1075).toNat * hiddenBit + (significand - hiddenBit)
    ⟨UInt64.ofNat (sign + min word (2047 * hiddenBit))⟩

def ofInt (n : Int) : Binary64 := ofQuotient (n < 0) n.natAbs 1

/-- The number nearest to `digits` times ten to the exponent. Exponents so far out that only zero or
infinity is near are not worked out. -/
def ofDecimal (negative : Bool) (digits : Nat) (exponent : Int) : Binary64 :=
  let size : Int := (Nat.toDigits 10 digits).length
  if digits = 0 ∨ exponent + size < -400 then ofQuotient negative 0 1
  else if 400 < exponent + size then ofQuotient negative (tenTo 400) 1
  else ofQuotient negative (digits * tenTo exponent.toNat) (tenTo (-exponent).toNat)

end Binary64
end EntityStore
