/-! Decimal numerals over ASCII digits. A numeral is printed without leading zeros, may be padded
to a width, and is read back with any number of leading zeros below a given bound. -/

namespace EntityStore.Text.Decimal

def numeral (n : Nat) : List Char := Nat.toDigits 10 n

def signed (n : Int) : List Char :=
  if n < 0 then '-' :: numeral n.natAbs else numeral n.natAbs

/-- Zeros stand between the sign and the digits, and the sign counts towards the width. -/
def padded (width : Nat) (n : Int) : List Char :=
  let digits := numeral n.natAbs
  if n < 0 then '-' :: (List.replicate (width - 1 - digits.length) '0' ++ digits)
  else List.replicate (width - digits.length) '0' ++ digits

/-- One or more digits and nothing else. -/
def natural? (text : List Char) : Option Nat :=
  if text.isEmpty then none
  else if text.all Char.isDigit then some (Nat.ofDigitChars 10 text 0)
  else none

/-- A plus sign may precede the digits; the value lies below the bound. -/
def unsigned? (bound : Nat) (text : List Char) : Option Nat :=
  let digits := match text with
    | '+' :: rest => rest
    | _ => text
  (natural? digits).filter (· < bound)

def text (n : Int) : String := String.ofList (signed n)

theorem natural?_numeral (n : Nat) : natural? (numeral n) = some n := by
  have digits : (numeral n).all Char.isDigit = true := by
    rw [List.all_eq_true]
    exact fun c member => Nat.isDigit_of_mem_toDigits (by omega) (by omega) member
  have nonempty : (numeral n).isEmpty = false := by
    rw [List.isEmpty_eq_false_iff]
    exact Nat.toDigits_ne_nil
  unfold natural?
  rw [if_neg (by rw [nonempty]; decide), if_pos digits, numeral,
    Nat.ofDigitChars_toDigits (by omega) (by omega)]

end EntityStore.Text.Decimal
