import EntityStore.Extended
import EntityStore.Text.Decimal

/-! Decimal texts of floating point numbers: the fewest digits that read back, and fifteen significant
digits. Where positional notation ends and how an exponent is spelled is part of each text. -/

namespace EntityStore.Binary64

/-- A positive quotient of natural numbers. -/
structure Quotient where
  numerator : Nat
  denominator : Nat

def magnitude (x : Binary64) : Quotient :=
  ⟨x.significand * twoTo x.power.toNat, twoTo (-x.power).toNat⟩

/-- Digits read as an integer, times ten to an exponent. -/
structure Decimal where
  digits : Nat
  exponent : Int

namespace Quotient

/-- How many times the numerator must be multiplied by ten to reach the denominator. -/
def tens : Nat → Nat → Nat → Nat
  | 0, _, _ => 0
  | fuel + 1, numerator, denominator =>
      if denominator ≤ numerator then 0 else tens fuel (numerator * 10) denominator + 1

def leading (value : Quotient) : Int :=
  if value.denominator ≤ value.numerator then
    (Nat.toDigits 10 (value.numerator / value.denominator)).length - 1
  else -(tens value.denominator.log2.succ value.numerator value.denominator : Int)

/-- Numerator and denominator of the value in units of ten to the exponent. -/
def inUnits (value : Quotient) (exponent : Int) : Quotient :=
  ⟨value.numerator * tenTo (-exponent).toNat, value.denominator * tenTo exponent.toNat⟩

/-- The given number of significant digits, halves rounded away from zero. -/
def rounded (value : Quotient) (count : Nat) : Decimal :=
  let exponent := value.leading - (count - 1 : Nat)
  let units := value.inUnits exponent
  let digits := (2 * units.numerator + units.denominator) / (2 * units.denominator)
  if digits = tenTo count then ⟨digits / 10, exponent + 1⟩ else ⟨digits, exponent⟩

end Quotient

/-- The nearest number of `count` digits that reads back as `x`. -/
def nearest? (x : Binary64) (count : Nat) : Option Decimal :=
  let value := x.magnitude
  let exponent := value.leading - (count - 1 : Nat)
  let units := value.inUnits exponent
  let below := units.numerator / units.denominator
  let belowFirst : Bool := 2 * (units.numerator % units.denominator) ≤ units.denominator
  let candidates := if belowFirst then [below, below + 1] else [below + 1, below]
  (candidates.find? fun digits => ofDecimal x.negative digits exponent == x).map (⟨·, exponent⟩)

def shortest (x : Binary64) : Decimal :=
  ((List.range' 1 17).findSome? x.nearest?).getD (x.magnitude.rounded 17)

private def zeros (count : Nat) : String := String.ofList (List.replicate count '0')

private def signText (negative : Bool) : String := if negative then "-" else ""

/-- Shortest text. Positional notation is used for leading digits from 10⁻⁵ up to below 10¹⁶; exponents beyond have
a sign. -/
def shortestText (x : Binary64) : String :=
  let body :=
    if x.isZero then "0.0"
    else
      let decimal := x.shortest
      let digits := Nat.toDigits 10 decimal.digits
      let point : Int := digits.length + decimal.exponent
      let text := String.ofList digits
      if 0 ≤ decimal.exponent ∧ point ≤ 16 then text ++ zeros decimal.exponent.toNat ++ ".0"
      else if 0 < point ∧ point ≤ 16 then
        String.ofList (digits.take point.toNat) ++ "." ++ String.ofList (digits.drop point.toNat)
      else if -5 < point ∧ point ≤ 0 then "0." ++ zeros (-point).toNat ++ text
      else
        let tail := String.ofList (digits.drop 1)
        String.ofList (digits.take 1) ++ (if tail.isEmpty then "" else "." ++ tail) ++
          (if 0 < point then "e+" else "e") ++ Text.Decimal.text (point - 1)
  signText x.negative ++ body

/-- A fraction without trailing zeros, but never without a digit. -/
private def fractionText (digits : List Char) : String :=
  let kept := (digits.reverse.dropWhile (· == '0')).reverse
  String.ofList (if kept.isEmpty then ['0'] else kept)

/-- The first fifteen digits of a positive number, rounded up where the next digit is five or more. -/
def fifteenDigits (x : Binary64) : Decimal :=
  let (leading, exponent) := (Extended.ofBinary64 x).leadingDigits
  let excess := (Nat.toDigits 10 leading).length - 15
  let kept := leading / tenTo (excess - 1)
  let digits := kept / 10 + (if 5 ≤ kept % 10 then 1 else 0)
  if digits = tenTo 15 then ⟨digits / 10, exponent + excess + 1⟩ else ⟨digits, exponent + excess⟩

/-- Fifteen significant digits. Positional notation is used for leading digits from 10⁻⁴ to 10¹⁴; an
exponent has a sign and two digits or more. -/
def fifteenText (x : Binary64) : String :=
  if x.isZero then "0.0"
  else if x.isInfinite then signText x.negative ++ "Inf"
  else
    let decimal := x.fifteenDigits
    let digits := Nat.toDigits 10 decimal.digits
    let leading := decimal.exponent + 14
    let body :=
      if leading < -4 ∨ 14 < leading then
        let size := Nat.toDigits 10 leading.natAbs
        String.ofList (digits.take 1) ++ "." ++ fractionText (digits.drop 1) ++ "e" ++
          (if leading < 0 then "-" else "+") ++ zeros (2 - size.length) ++ String.ofList size
      else if leading < 0 then
        "0." ++ fractionText (List.replicate (-leading - 1).toNat '0' ++ digits)
      else
        let whole := leading.toNat + 1
        String.ofList (digits.take whole) ++ "." ++ fractionText (digits.drop whole)
    signText x.negative ++ body

end EntityStore.Binary64
