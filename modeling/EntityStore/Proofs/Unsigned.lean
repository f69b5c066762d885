import EntityStore.Proofs.Dates
import EntityStore.Proofs.Scalars

/-! Texts that are read as numbers of 64 bits. Such a text is a run of ASCII digits, perhaps with a plus sign before it,
whose number fits, and no other text is taken for a number. Reading it digit after digit comes to the same, because a
number that has once grown too large never comes back. Without a sign and without zeros in front each number has one
text only, the one that is stored for it. -/

namespace EntityStore
open Text

namespace Text.Decimal

/-! ### Reading digit after digit -/

section Scan
variable {bound : Nat}

def digit (c : Char) : Nat := c.toNat - '0'.toNat

def checked? (bound n : Nat) : Option Nat := if n < bound then some n else none

def step? (bound n : Nat) (c : Char) : Option Nat :=
  if c.isDigit then (checked? bound (10 * n)).bind fun tenfold => checked? bound (tenfold + digit c) else none

/-- The number of one or more digits, in numbers below the bound all the way. -/
def scan? (bound : Nat) (text : List Char) : Option Nat :=
  if text.isEmpty then none else text.foldlM (step? bound) 0

theorem step?_digit {c : Char} (decimal : c.isDigit = true) (n : Nat) :
    step? bound n c = checked? bound (10 * n + digit c) := by
  rw [step?, if_pos decimal]
  by_cases fits : 10 * n < bound
  · rw [checked?, if_pos fits, Option.bind_some]
  · have larger : ¬ 10 * n + digit c < bound := by omega
    rw [checked?, if_neg fits, Option.bind_none, checked?, if_neg larger]

theorem le_ofDigitChars (text : List Char) (n : Nat) : n ≤ Nat.ofDigitChars 10 text n := by
  induction text generalizing n with
  | nil => exact Nat.le_refl n
  | cons c rest ih =>
    rw [Nat.ofDigitChars_cons]
    exact Nat.le_trans (by omega) (ih _)

/-- Digits never make a number smaller, so checking it once at the end does as well as checking every step. -/
theorem foldlM_step? (text : List Char) (n : Nat) (fits : n < bound) : text.foldlM (step? bound) n =
    if text.all Char.isDigit then checked? bound (Nat.ofDigitChars 10 text n) else none := by
  induction text generalizing n with
  | nil =>
    rw [List.foldlM_nil, List.all_nil, if_pos rfl, Nat.ofDigitChars_nil, checked?, if_pos fits]
    rfl
  | cons c rest ih =>
    rw [List.foldlM_cons, List.all_cons, Nat.ofDigitChars_cons, Option.bind_eq_bind]
    by_cases decimal : c.isDigit = true
    · have value : c.toNat - '0'.toNat = digit c := rfl
      rw [step?_digit decimal, decimal, Bool.true_and, value]
      by_cases small : 10 * n + digit c < bound
      · rw [checked?, if_pos small, Option.bind_some, ih _ small]
      · have past := le_ofDigitChars rest (10 * n + digit c)
        have large : ¬ Nat.ofDigitChars 10 rest (10 * n + digit c) < bound := by omega
        rw [checked?, if_neg small, Option.bind_none, checked?, if_neg large, ite_self]
    · rw [step?, if_neg decimal, Option.bind_none, Bool.eq_false_iff.mpr decimal, Bool.false_and]
      exact (if_neg Bool.false_ne_true).symm

theorem natural?_filter (positive : 0 < bound) (text : List Char) :
    (natural? text).filter (· < bound) = scan? bound text := by
  rw [natural?, scan?, foldlM_step? text 0 positive]
  split
  · rfl
  · split
    · rw [Option.filter_some, checked?]
      simp
    · rfl

def takePlus (text : List Char) : List Char :=
  match text with
  | '+' :: rest => rest
  | _ => text

theorem unsigned?_eq_scan? (positive : 0 < bound) (text : List Char) :
    unsigned? bound text = scan? bound (takePlus text) := natural?_filter positive (takePlus text)

end Scan

/-! ### Digits with a sign or without -/

@[ext]
structure UnsignedParts where
  plus : Bool
  digits : Run Char.isDigit

namespace UnsignedParts

def text (parts : UnsignedParts) : List Char := (if parts.plus then ['+'] else []) ++ parts.digits.chars

theorem text_injective : Function.Injective text := by
  rintro ⟨plus, digits⟩ ⟨other, others⟩ same
  cases plus with
  | false =>
    cases other with
    | false => exact UnsignedParts.ext rfl (Run.ext same)
    | true => exact absurd same (digits.head_ne rfl _)
  | true =>
    cases other with
    | false => exact absurd same.symm (others.head_ne rfl _)
    | true => exact UnsignedParts.ext rfl (Run.ext (List.cons.inj same).2)

end UnsignedParts

theorem unsigned_iff {text : List Char} {n : Nat} :
    Unsigned text n ↔ ∃ parts : UnsignedParts, parts.text = text ∧ parts.digits.value = n := by
  constructor
  · rintro (written | ⟨digits, rfl, written⟩)
    · obtain ⟨run, rfl, value⟩ := written.exists_run
      exact ⟨⟨false, run⟩, rfl, value⟩
    · obtain ⟨run, rfl, value⟩ := written.exists_run
      exact ⟨⟨true, run⟩, rfl, value⟩
  · rintro ⟨⟨_ | _, run⟩, rfl, rfl⟩
    · exact .inl run.numeral_value
    · exact .inr ⟨run.chars, rfl, run.numeral_value⟩

/-- Neither a sign nor a zero in front. -/
def Bare (text : List Char) : Prop := ∀ c ∈ text.head?, c ≠ '+' ∧ c ≠ '0'

theorem bare_numeral {n : Nat} (positive : 0 < n) : Bare (numeral n) := by
  intro c first
  obtain ⟨rest, shape⟩ : ∃ rest, numeral n = c :: rest := by
    cases found : numeral n with
    | nil => rw [found] at first; cases first
    | cons d rest => rw [found] at first; cases first; exact ⟨rest, rfl⟩
  have plain : Numeral (numeral n) n := ⟨0, rfl⟩
  refine ⟨plain.ne_of_mem (shape ▸ List.mem_cons_self) rfl, ?_⟩
  rintro rfl
  have value : Nat.ofDigitChars 10 rest 0 = n := by
    have read : Nat.ofDigitChars 10 (numeral n) 0 = n := Nat.ofDigitChars_toDigits (by decide) (by decide)
    rwa [shape, Nat.ofDigitChars_cons] at read
  have nonempty : rest ≠ [] := by
    rintro rfl
    rw [Nat.ofDigitChars_nil] at value
    omega
  have digits : ∀ d ∈ rest, d.isDigit = true := by
    intro d member
    have inside : d ∈ numeral n := shape ▸ List.mem_cons_of_mem _ member
    exact Nat.isDigit_of_mem_toDigits (by decide) (by decide) inside
  obtain ⟨zeros, padded⟩ := numeral_ofDigitChars digits nonempty
  have longer := congrArg List.length padded
  rw [value, List.length_append, List.length_replicate, shape, List.length_cons] at longer
  omega

theorem unsigned_bare_iff {text : List Char} {n : Nat} (positive : 0 < n) :
    Unsigned text n ∧ Bare text ↔ text = numeral n := by
  constructor
  · rintro ⟨⟨zeros, rfl⟩ | ⟨digits, rfl, -⟩, bare⟩
    · cases zeros with
      | zero => rfl
      | succ zeros => exact absurd rfl (bare '0' rfl).2
    · exact absurd rfl (bare '+' rfl).1
  · rintro rfl
    exact ⟨.inl ⟨0, rfl⟩, bare_numeral positive⟩

end Text.Decimal

open Text.Decimal

namespace Scalar

/-- What is read of a text as a number of 64 bits. -/
structure ReadsUnsigned (content : String) : Prop where
  accepts : ∀ n : UInt64, decode (.text content) = .ok n ↔
    ∃ parts : UnsignedParts, parts.text = content.toList ∧ parts.digits.value = n.toNat
  refuses : (decode (.text content) : Except CodecError UInt64) = .error (.invalidUnsigned content) ↔
    ¬ ∃ parts : UnsignedParts, parts.text = content.toList ∧ parts.digits.value < UInt64.size
  unique : ∀ parts others : UnsignedParts, parts.text = content.toList → others.text = content.toList → parts = others
  padded : ∀ parts : UnsignedParts, parts.text = content.toList → ∀ (zeros : Nat) (n : UInt64),
    decode (.text (String.ofList (UnsignedParts.text ⟨parts.plus, parts.digits.padded zeros⟩))) = .ok n ↔
      decode (.text content) = .ok n
  /-- Reading digit after digit, with a check at every step, comes to the same. -/
  scanned : (decode (.text content) : Except CodecError UInt64) =
    match scan? UInt64.size (takePlus content.toList) with
    | some n => .ok (UInt64.ofNat n)
    | none => .error (.invalidUnsigned content)

/-- The text that a number is stored as is its only one without a sign and without zeros in front. -/
def StoredBare (n : UInt64) : Prop := ∃ written : String, encode n = .text written ∧
  ∀ content : String, decode (.text content) = .ok n ∧ Bare content.toList ↔ content = written

theorem decode_unsigned_cases (content : String) :
    (∃ n : UInt64, decode (.text content) = .ok n) ∨
      (decode (.text content) : Except CodecError UInt64) = .error (.invalidUnsigned content) := by
  simp only [decode]
  cases unsigned? UInt64.size content.toList with
  | none => exact .inr rfl
  | some n => exact .inl ⟨UInt64.ofNat n, rfl⟩

theorem decode_unsigned_eq_ok {content : String} {n : UInt64} : decode (.text content) = .ok n ↔
    ∃ parts : UnsignedParts, parts.text = content.toList ∧ parts.digits.value = n.toNat :=
  decode_numeral_eq_ok.trans unsigned_iff

theorem decode_unsigned_parts {content : String} {parts : UnsignedParts} (text : parts.text = content.toList)
    (n : UInt64) : decode (.text content) = .ok n ↔ parts.digits.value = n.toNat := by
  rw [decode_unsigned_eq_ok]
  constructor
  · rintro ⟨others, same, value⟩
    rwa [UnsignedParts.text_injective (text.trans same.symm)]
  · exact fun value => ⟨parts, text, value⟩

theorem readsUnsigned (content : String) : ReadsUnsigned content where
  accepts _ := decode_unsigned_eq_ok
  refuses := by
    constructor
    · rintro refused ⟨parts, text, fits⟩
      have exact : (UInt64.ofNat parts.digits.value).toNat = parts.digits.value :=
        UInt64.toNat_ofNat_of_lt' fits
      rw [(decode_unsigned_parts text _).mpr exact.symm] at refused
      cases refused
    · intro unfit
      refine (decode_unsigned_cases content).resolve_left ?_
      rintro ⟨n, read⟩
      obtain ⟨parts, text, value⟩ := decode_unsigned_eq_ok.mp read
      exact unfit ⟨parts, text, value ▸ n.toNat_lt⟩
  unique _ _ first second := UnsignedParts.text_injective (first.trans second.symm)
  padded parts text zeros n := by
    rw [decode_unsigned_parts (String.toList_ofList).symm, decode_unsigned_parts text, Run.value_padded]
  scanned := by
    rw [← unsigned?_eq_scan? (by decide)]
    rfl

theorem storedBare {n : UInt64} (positive : 1 ≤ n) : StoredBare n := by
  have positive : 0 < n.toNat := UInt64.le_iff_toNat_le.mp positive
  have stored : encode n = .text (Text.Decimal.text n.toNat) := if_neg (by rintro rfl; exact Nat.lt_irrefl _ positive)
  have digits : (Text.Decimal.text n.toNat).toList = numeral n.toNat := by simp [Text.Decimal.text, signed]
  refine ⟨_, stored, fun content => ?_⟩
  rw [decode_numeral_eq_ok, unsigned_bare_iff positive, ← digits]
  exact String.toList_inj

/-- A text is read as a number of 64 bits exactly where it is ASCII digits, with a plus sign before them or without, whose
number is below 2^64. A number that is not zero is stored as its only text without a sign and without zeros in front. -/
theorem decode_unsigned :
    (∀ content : String, ReadsUnsigned content) ∧ ∀ n : UInt64, 1 ≤ n → StoredBare n :=
  ⟨readsUnsigned, fun _ => storedBare⟩

/-- The greatest number has texts with a sign and with zeros. The next one has none, and digits of other scripts count for
nothing. -/
theorem decode_unsigned_greatest :
    let greatest : UInt64 := 18446744073709551615
    let arabic := "\u0661\u0662"
    decode (.text "+0018446744073709551615") = .ok greatest ∧
      (decode (.text "18446744073709551616") : Except CodecError UInt64) =
        .error (.invalidUnsigned "18446744073709551616") ∧
      (decode (.text arabic) : Except CodecError UInt64) = .error (.invalidUnsigned arabic) ∧
      1 ≤ greatest ∧ StoredBare greatest := by
  intro greatest arabic
  obtain ⟨reads, bare⟩ := decode_unsigned
  let digits : Run Char.isDigit := ⟨"0018446744073709551615".toList, by decide, List.all_eq_true.mp (by decide)⟩
  have positive : 1 ≤ greatest := by decide
  have large : scan? UInt64.size (takePlus "18446744073709551616".toList) = none := by decide
  have foreign : scan? UInt64.size (takePlus arabic.toList) = none := by decide
  refine ⟨((reads _).accepts greatest).mpr ⟨⟨true, digits⟩, rfl, by decide⟩, ?_, ?_, positive, bare greatest positive⟩
  · rw [(reads "18446744073709551616").scanned, large]
  · rw [(reads arabic).scanned, foreign]

end Scalar
end EntityStore
