import EntityStore.Extended

/-! Numbers in text: a sign, digits with a point among them, and an exponent. A reader takes the longest number at
the front and leaves the rest. -/

namespace EntityStore.Text

/-- Digits before and after the point, times ten to the exponent. A whole number has neither point nor exponent. -/
structure Numeral where
  negative : Bool
  before : List Char
  after : List Char
  exponent : Int
  whole : Bool

namespace Numeral

def isSpace (c : Char) : Bool := c == ' ' || (9 ≤ c.toNat && c.toNat ≤ 13)

private def sign : List Char → Bool × List Char
  | '-' :: rest => (true, rest)
  | '+' :: rest => (false, rest)
  | text => (false, text)

private def digit (c : Char) : Nat := c.toNat - '0'.toNat

/-- The size of an exponent, which no longer grows with its digits from ten thousand on. -/
private def exponentSize (digits : List Char) : Nat :=
  digits.foldl (fun size c => if size < 10000 then size * 10 + digit c else 10000) 0

/-- An exponent counts only where it has a digit. -/
private def exponent? : List Char → Option (Int × List Char)
  | 'e' :: rest | 'E' :: rest =>
      let (negative, digits) := sign rest
      match digits.span Char.isDigit with
      | ([], _) => none
      | (found, after) =>
          let size : Int := exponentSize found
          some (if negative then -size else size, after)
  | _ => none

/-- The number at the front of a text, after blanks, and what follows it. -/
def read? (text : List Char) : Option (Numeral × List Char) :=
  let (negative, unsigned) := sign (text.dropWhile isSpace)
  let (before, rest) := unsigned.span Char.isDigit
  let (point, after, rest) := match rest with
    | '.' :: more =>
        let (digits, rest) := more.span Char.isDigit
        (true, digits, rest)
    | _ => (false, [], rest)
  if before.isEmpty && after.isEmpty then none
  else
    match exponent? rest with
    | some (exponent, rest) => some (⟨negative, before, after, exponent, false⟩, rest)
    | none => some (⟨negative, before, after, 0, !point⟩, rest)

def ofText? (text : List Char) : Option Numeral :=
  match read? text with
  | some (numeral, rest) => if rest.all isSpace then some numeral else none
  | none => none

/-- Digits up to this are followed by another digit that 64 bits still hold. -/
private def room : Nat := (Nat.pow 2 64 - 10) / 10

/-- Digits before the point, of which those that do not fit only raise the power of ten. -/
private def takeBefore (taken : Nat) (power : Int) : List Char → Nat × Int
  | [] => (taken, power)
  | c :: rest =>
      if taken < room then takeBefore (taken * 10 + digit c) power rest else takeBefore taken (power + 1) rest

/-- Digits after the point, of which those that do not fit are left out. -/
private def takeAfter (taken : Nat) (power : Int) : List Char → Nat × Int
  | [] => (taken, power)
  | c :: rest => if taken < room then takeAfter (taken * 10 + digit c) (power - 1) rest else (taken, power)

def real (numeral : Numeral) : Binary64 :=
  let (taken, power) := takeBefore 0 0 numeral.before
  let (taken, power) := takeAfter taken power numeral.after
  Extended.ofDecimal numeral.negative taken (numeral.exponent + power)

def integer? (numeral : Numeral) : Option Int :=
  if numeral.whole then
    let size := Nat.ofDigitChars 10 numeral.before 0
    some (if numeral.negative then -(size : Int) else size)
  else none

end Numeral
end EntityStore.Text
