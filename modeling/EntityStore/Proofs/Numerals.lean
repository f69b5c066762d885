import EntityStore.Proofs.Roundtrip
import Mathlib.Data.List.Induction

/-! Which texts are read as numbers and as dates, and as which. A numeral is the shortest one of its number after any
zeros, and a date is three numerals with dashes between them, the first of them with a sign of its own or without. -/

namespace EntityStore

namespace Text.Decimal

/-- A text that is a numeral of a number. -/
def Numeral (text : List Char) (n : Nat) : Prop := ∃ zeros, text = List.replicate zeros '0' ++ numeral n

theorem Numeral.ne_of_mem {text : List Char} {n : Nat} {c other : Char} (written : Numeral text n) (member : c ∈ text)
    (sign : other.isDigit = false) : c ≠ other := by
  obtain ⟨zeros, rfl⟩ := written
  exact ne_of_mem_padded member sign

theorem Numeral.head_ne {text rest : List Char} {n : Nat} {other : Char} (written : Numeral text n)
    (sign : other.isDigit = false) : text ≠ other :: rest := by
  rintro rfl
  exact written.ne_of_mem List.mem_cons_self sign rfl

theorem Numeral.nonempty {text : List Char} {n : Nat} (written : Numeral text n) : text ≠ [] := by
  obtain ⟨zeros, rfl⟩ := written
  exact fun empty => Nat.toDigits_ne_nil (List.append_eq_nil_iff.mp empty).2

theorem numeral_digit {digit : Nat} (small : digit < 10) : numeral digit = [digit.digitChar] :=
  Nat.toDigits_of_lt_base small

theorem numeral_snoc {n digit : Nat} (positive : 0 < n) (small : digit < 10) :
    numeral n ++ [digit.digitChar] = numeral (10 * n + digit) := by
  rw [← numeral_digit small]
  exact Nat.toDigits_append_toDigits (by decide) positive small

/-- A digit after a numeral makes another numeral. The number grows in front of it, unless there were only zeros. -/
theorem Numeral.snoc {text : List Char} {n digit : Nat} (written : Numeral text n) (small : digit < 10) :
    Numeral (text ++ [digit.digitChar]) (10 * n + digit) := by
  obtain ⟨zeros, rfl⟩ := written
  rcases Nat.eq_zero_or_pos n with rfl | positive
  · refine ⟨zeros + 1, ?_⟩
    rw [Nat.mul_zero, Nat.zero_add, numeral_digit small, List.replicate_succ']
    rfl
  · exact ⟨zeros, by rw [List.append_assoc, numeral_snoc positive small]⟩

theorem exists_digitChar {c : Char} (digit : c.isDigit = true) :
    ∃ n < 10, c = n.digitChar ∧ c.toNat - '0'.toNat = n := by
  obtain ⟨low, high⟩ := Char.isDigit_iff_toNat.mp digit
  change 48 ≤ c.toNat at low
  change c.toNat ≤ 57 at high
  have small : c.toNat - 48 < 10 := by omega
  refine ⟨c.toNat - 48, small, Char.toNat_inj.mp ?_, rfl⟩
  rw [Nat.toNat_digitChar_of_lt_ten small]
  omega

theorem numeral_ofDigitChars {text : List Char} (digits : ∀ c ∈ text, c.isDigit = true) (nonempty : text ≠ []) :
    Numeral text (Nat.ofDigitChars 10 text 0) := by
  induction text using List.reverseRecOn with
  | nil => exact absurd rfl nonempty
  | append_singleton rest c ih =>
    obtain ⟨n, small, rfl, value⟩ := exists_digitChar (digits c (List.mem_append_right _ List.mem_cons_self))
    have count : Nat.ofDigitChars 10 (rest ++ [n.digitChar]) 0 = 10 * Nat.ofDigitChars 10 rest 0 + n := by
      rw [Nat.ofDigitChars_append, Nat.ofDigitChars_cons, Nat.ofDigitChars_nil, value]
    rw [count]
    by_cases empty : rest = []
    · subst empty
      exact ⟨0, by rw [Nat.ofDigitChars_nil, Nat.mul_zero, Nat.zero_add, numeral_digit small]; rfl⟩
    · exact (ih (fun c member => digits c (List.mem_append_left _ member)) empty).snoc small

theorem natural?_eq_some {text : List Char} {n : Nat} : natural? text = some n ↔ Numeral text n := by
  constructor
  · intro read
    unfold natural? at read
    split at read
    · cases read
    rename_i nonempty
    split at read
    · rename_i digits
      cases read
      exact numeral_ofDigitChars (List.all_eq_true.mp digits) (mt List.isEmpty_iff.mpr nonempty)
    · cases read
  · rintro ⟨zeros, rfl⟩
    exact natural?_padded zeros n

/-- A numeral that may have a plus sign. -/
def Unsigned (text : List Char) (n : Nat) : Prop := Numeral text n ∨ ∃ digits, text = '+' :: digits ∧ Numeral digits n

theorem unsigned?_eq_some {bound n : Nat} {text : List Char} :
    unsigned? bound text = some n ↔ Unsigned text n ∧ n < bound := by
  unfold unsigned?
  split
  · rename_i digits
    have unmarked : ¬ Numeral ('+' :: digits) n := fun written => written.head_ne rfl rfl
    simp [Option.filter_eq_some_iff, natural?_eq_some, Unsigned, unmarked]
  · rename_i unmarked
    have marked : ¬ ∃ digits, text = '+' :: digits ∧ Numeral digits n := fun ⟨digits, same, _⟩ => unmarked digits same
    simp [Option.filter_eq_some_iff, natural?_eq_some, Unsigned, marked]

end Text.Decimal

open Text.Decimal

namespace Codec

/-- Digits that are the magnitude of a number with a given sign. -/
def Signed (negative : Bool) (digits : List Char) (n : Int32) : Prop :=
  ∃ magnitude, Numeral digits magnitude ∧ n.toInt = if negative then -(magnitude : Int) else magnitude

/-- Three numerals with dashes between them, of which only the first may have a sign. -/
def Dated (text : List Char) (date : Date) : Prop :=
  ∃ (negative : Bool) (year month day : List Char),
    text = (if negative then ['-'] else []) ++ (year ++ '-' :: (month ++ '-' :: day)) ∧
      Signed negative year date.year ∧ Signed false month date.month ∧ Signed false day date.day

theorem narrow?_eq_some {negative : Bool} {digits : List Char} {n : Int32} :
    narrow? negative digits = some n ↔ Signed negative digits n := by
  constructor
  · intro read
    unfold narrow? at read
    obtain ⟨magnitude, written, read⟩ := Option.bind_eq_some_iff.mp read
    obtain ⟨⟨low, high⟩, same⟩ := Option.ite_none_right_eq_some.mp read
    change -0x80000000 ≤ _ at low
    change _ ≤ 0x7FFFFFFF at high
    cases same
    exact ⟨magnitude, natural?_eq_some.mp written, Int32.toInt_ofInt_of_le (by omega) (by omega)⟩
  · rintro ⟨magnitude, ⟨zeros, rfl⟩, value⟩
    have size : n.toInt.natAbs = magnitude := by
      rw [value]
      split <;> omega
    subst size
    exact narrow?_padded value

theorem Signed.nonneg {digits : List Char} {n : Int32} (signed : Signed false digits n) : 0 ≤ n := by
  obtain ⟨magnitude, -, value⟩ := signed
  rw [if_neg (by decide)] at value
  exact Int32.le_iff_toInt_le.mpr (value ▸ Int.natCast_nonneg magnitude)

theorem splitDash_eq_some {text before after : List Char} :
    splitDash text = some (before, after) ↔ text = before ++ '-' :: after ∧ ∀ c ∈ before, c ≠ '-' := by
  constructor
  · intro split
    unfold splitDash at split
    rw [List.span_eq_takeWhile_dropWhile] at split
    cases found : text.dropWhile (· != '-') with
    | nil =>
      rw [found] at split
      cases split
    | cons dash rest =>
      rw [found] at split
      cases split
      obtain rfl : dash = '-' := by
        have stopped := List.head?_dropWhile_not (· != '-') text
        rw [found] at stopped
        simpa using stopped
      refine ⟨?_, fun c member => by simpa using List.all_eq_true.mp List.all_takeWhile c member⟩
      rw [← found]
      exact List.takeWhile_append_dropWhile.symm
  · rintro ⟨rfl, dashless⟩
    exact splitDash_append dashless after

theorem Signed.dashless {negative : Bool} {digits : List Char} {n : Int32} (signed : Signed negative digits n) :
    ∀ c ∈ digits, c ≠ '-' := by
  obtain ⟨magnitude, written, -⟩ := signed
  exact fun c member => written.ne_of_mem member rfl

theorem unsignedDate?_eq_some {negative : Bool} {unsigned : List Char} {date : Date} :
    unsignedDate? negative unsigned = some date ↔
      ∃ year month day, unsigned = year ++ '-' :: (month ++ '-' :: day) ∧
        Signed negative year date.year ∧ Signed false month date.month ∧ Signed false day date.day := by
  constructor
  · intro read
    unfold unsignedDate? at read
    obtain ⟨⟨year, rest⟩, first, read⟩ := Option.bind_eq_some_iff.mp read
    obtain ⟨⟨month, day⟩, second, read⟩ := Option.bind_eq_some_iff.mp read
    obtain ⟨y, yearRead, read⟩ := Option.bind_eq_some_iff.mp read
    obtain ⟨m, monthRead, read⟩ := Option.bind_eq_some_iff.mp read
    obtain ⟨d, dayRead, read⟩ := Option.bind_eq_some_iff.mp read
    cases read
    obtain ⟨rfl, -⟩ := splitDash_eq_some.mp first
    obtain ⟨rfl, -⟩ := splitDash_eq_some.mp second
    exact ⟨year, month, day, rfl, narrow?_eq_some.mp yearRead, narrow?_eq_some.mp monthRead,
      narrow?_eq_some.mp dayRead⟩
  · rintro ⟨year, month, day, rfl, yearSigned, monthSigned, daySigned⟩
    simp only [unsignedDate?, splitDash_append yearSigned.dashless, splitDash_append monthSigned.dashless,
      Option.bind_eq_bind, Option.bind_some, narrow?_eq_some.mpr yearSigned, narrow?_eq_some.mpr monthSigned,
      narrow?_eq_some.mpr daySigned]
    rfl

theorem date?_eq_some {text : List Char} {date : Date} : date? text = some date ↔ Dated text date := by
  constructor
  · intro read
    unfold date? at read
    split at read
    rename_i negative unsigned sign
    obtain ⟨year, month, day, same, parts⟩ := unsignedDate?_eq_some.mp read
    refine ⟨negative, year, month, day, ?_, parts⟩
    split at sign
    · cases sign
      rw [← same]
      rfl
    · cases sign
      exact same
  · rintro ⟨negative, year, month, day, rfl, parts⟩
    have read := unsignedDate?_eq_some.mpr ⟨year, month, day, rfl, parts⟩
    cases negative with
    | true => exact read
    | false =>
      rw [← read]
      obtain ⟨⟨magnitude, written, -⟩, -⟩ := parts
      unfold date?
      split
      rename_i negative unsigned sign
      split at sign
      · rename_i rest found
        cases year with
        | nil => exact absurd rfl written.nonempty
        | cons c tail =>
          have dash : c = '-' := (List.cons.inj found).1
          exact absurd dash (written.ne_of_mem List.mem_cons_self rfl)
      · cases sign
        rfl

end Codec
end EntityStore
