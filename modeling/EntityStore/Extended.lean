import EntityStore.Binary64

/-! Numbers of 64 significant bits, each an integer times a power of two. Between decimal texts and floating point
numbers, powers of ten are multiplied in one after the other and every product is rounded to such a number. -/

namespace EntityStore

structure Extended where
  significand : Nat
  power : Int
  deriving DecidableEq, Repr

namespace Extended
open Binary64 (twoTo tenTo roundHalfEven)

/-- The number nearest to a quotient of positive integers, halves to the even neighbour. -/
def ofQuotient (numerator denominator : Nat) : Extended :=
  let shift := denominator.log2 + 64
  let excess := (numerator * twoTo shift / denominator).log2 - 63
  ⟨roundHalfEven (numerator * twoTo shift) (denominator * twoTo excess), (excess : Int) - shift⟩

def mul (x y : Extended) : Extended :=
  let product := x.significand * y.significand
  let excess := product.log2 - 63
  ⟨roundHalfEven product (twoTo excess), x.power + y.power + excess⟩

def atMost (x y : Extended) : Bool :=
  let unit := min x.power y.power
  x.significand * twoTo (x.power - unit).toNat ≤ y.significand * twoTo (y.power - unit).toNat

def below (x y : Extended) : Bool := !y.atMost x

/-- The greatest integer that is not above the number. -/
def floor (x : Extended) : Nat := x.significand * twoTo x.power.toNat / twoTo (-x.power).toNat

def ten (exponent : Int) : Extended := ofQuotient (tenTo exponent.toNat) (tenTo (-exponent).toNat)

/-- The size of a finite floating point number. -/
def ofBinary64 (x : Binary64) : Extended := ⟨x.significand, x.power⟩

/-- The greatest number that does not count as infinite. -/
def largest : Extended := ofQuotient (17976931348623157081452742373 * tenTo 280) 1

def toBinary64 (negative : Bool) (x : Extended) : Binary64 :=
  if largest.below x then .ofQuotient negative (tenTo 400) 1
  else .ofQuotient negative (x.significand * twoTo x.power.toNat) (twoTo (-x.power).toNat)

/-- Multiplies by a power of ten, by hundreds of powers first, then by tens, then by single powers. -/
def timesTen (x : Extended) (exponent : Int) : Extended :=
  let step (size : Nat) : Extended := ten (if exponent < 0 then -(size : Int) else size)
  let times (factor : Extended) (count : Nat) (x : Extended) : Extended := Nat.repeat (·.mul factor) count x
  let count := exponent.natAbs
  times (step 1) (count % 10) (times (step 10) (count % 100 / 10) (times (step 100) (count / 100) x))

/-- Moves tens from the exponent into the digits while both have them to give and 64 bits hold the digits. -/
def grow : Nat → Nat → Int → Nat × Int
  | 0, digits, exponent => (digits, exponent)
  | fuel + 1, digits, exponent =>
      if 0 < exponent ∧ digits < (twoTo 64 - 1) / 10 then grow fuel (digits * 10) (exponent - 1)
      else (digits, exponent)

def shrink : Nat → Nat → Int → Nat × Int
  | 0, digits, exponent => (digits, exponent)
  | fuel + 1, digits, exponent =>
      if exponent < 0 ∧ digits % 10 = 0 then shrink fuel (digits / 10) (exponent + 1) else (digits, exponent)

/-- Digits below two to 64, times ten to the exponent. Twenty moves are more than 64 bits have digits. -/
def ofDecimal (negative : Bool) (digits : Nat) (exponent : Int) : Binary64 :=
  if digits = 0 then .ofQuotient negative 0 1
  else
    let (digits, exponent) := grow 20 digits exponent
    let (digits, exponent) := shrink 20 digits exponent
    toBinary64 negative (timesTen ⟨digits, 0⟩ exponent)

/-- Multiplies by a power of ten while a condition holds, and counts the powers. Doubles need fewer steps of each
size than there are. -/
def scaleWhile (condition : Extended → Bool) (exponent : Int) : Nat → Extended × Int → Extended × Int
  | 0, scaled => scaled
  | fuel + 1, (x, taken) =>
      if condition x then scaleWhile condition exponent fuel (x.mul (ten exponent), taken - exponent) else (x, taken)

/-- The leading eighteen or nineteen digits of a positive number, the others cut off, and the power of ten they
stand for. -/
def leadingDigits (x : Extended) : Nat × Int :=
  let (scaled, exponent) :=
    if (ten 19).atMost x then
      scaleWhile (ten 19).atMost (-1) 12
        (scaleWhile (ten 29).atMost (-10) 12 (scaleWhile (ten 119).atMost (-100) 12 (x, 0)))
    else
      scaleWhile (·.below (ten 17)) 1 12
        (scaleWhile (·.below (ten 7)) 10 12 (scaleWhile (·.below (ten (-97))) 100 12 (x, 0)))
  (scaled.floor, exponent)

end Extended
end EntityStore
