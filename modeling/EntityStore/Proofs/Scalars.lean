import EntityStore.Proofs.Numerals

/-! Laws of stored scalars. Each type says what is stored for its values and what else is read as one of them. Whatever
is read is stored anew in one way only, so a stored value that another writer spelled differently settles when it is
written back. -/

namespace EntityStore.Scalar
open Text.Decimal

/-- How values of a type are stored. -/
structure Form (α : Type) where
  zero : α
  /-- The values that come back as they were written. -/
  regular : α → Prop
  /-- What stands for a value beside NULL. -/
  stands : Value → α → Prop
  expected : String

/-- Reals and blobs stand for no value of any type. -/
def Foreign (stored : Value) : Prop := (∃ x, stored = .real x) ∨ ∃ octets, stored = .blob octets

structure Lawful [Scalar α] (form : Form α) : Prop where
  faithful : ∀ value, form.regular value → decode (encode value) = .ok value
  null : ∀ value : α, encode value = .null ↔ value = form.zero
  /-- Nothing is taken for a value but what stands for it, so no value is ever made up. -/
  read : ∀ stored value, decode stored = .ok value ↔ stored = .null ∧ value = form.zero ∨ form.stands stored value
  settles : ∀ stored (value : α), decode stored = .ok value →
    decode (encode value) = .ok value ∧ ∀ again : α, decode (encode value) = .ok again → encode again = encode value
  refused : ∀ stored, Foreign stored →
    (decode stored : Except CodecError α) = .error (.unexpectedType form.expected stored.kind)

theorem Lawful.of_regular [Scalar α] {form : Form α}
    (faithful : ∀ value, form.regular value → decode (encode value) = .ok value)
    (null : ∀ value : α, encode value = .null ↔ value = form.zero)
    (read : ∀ stored value, decode stored = .ok value ↔ stored = .null ∧ value = form.zero ∨ form.stands stored value)
    (zero : form.regular form.zero) (regular : ∀ stored value, form.stands stored value → form.regular value)
    (refused : ∀ stored, Foreign stored →
      (decode stored : Except CodecError α) = .error (.unexpectedType form.expected stored.kind)) : Lawful form where
  faithful := faithful
  null := null
  read := read
  settles stored value known := by
    have back : decode (encode value) = .ok value := by
      rcases (read stored value).mp known with ⟨-, rfl⟩ | stands
      · exact faithful _ zero
      · exact faithful value (regular stored value stands)
    refine ⟨back, fun again readAgain => ?_⟩
    rw [back] at readAgain
    cases readAgain
    rfl
  refused := refused

namespace Form

def text : Form String where
  zero := ""
  regular _ := True
  stands stored value := stored = .text value
  expected := "text"

def integer (zero : α) (number : α → Int) : Form α where
  zero := zero
  regular _ := True
  stands stored value := ∃ n, stored = .integer n ∧ n.toInt = number value
  expected := "integer"

/-- Large numbers are stored as numerals, and integers that are not negative are read too. -/
def decimal : Form UInt64 where
  zero := 0
  regular _ := True
  stands stored value :=
    (∃ content : String, stored = .text content ∧ Unsigned content.toList value.toNat) ∨
      ∃ n, stored = .integer n ∧ n.toInt = value.toNat
  expected := "text"

def date : Form (Option Date) where
  zero := none
  regular value := ∀ date ∈ value, 0 ≤ date.month ∧ 0 ≤ date.day
  stands stored value := ∃ (content : String) (date : Date),
    stored = .text content ∧ value = some date ∧ Codec.Dated content.toList date
  expected := "text"

end Form

theorem lawful_text : Lawful Form.text := by
  refine .of_regular (fun value _ => faithful_text value) (fun value => ?_) (fun stored value => ?_) trivial
    (fun _ _ _ => trivial) ?_
  · change Codec.encodeText value = .null ↔ value = ""
    by_cases empty : value = ""
    · simp [Codec.encodeText, empty]
    · simp [Codec.encodeText, empty]
  · cases stored <;> simp [decode, Form.text, eq_comm]
  · rintro stored (⟨x, rfl⟩ | ⟨octets, rfl⟩) <;> rfl

theorem encodeInteger_eq_null {n : Int64} : Codec.encodeInteger n = .null ↔ n = 0 := by
  unfold Codec.encodeInteger
  split <;> simp_all

theorem lawful_integer [Scalar α] {number : α → Int} {zero : α} (vanishes : ∀ value, number value = 0 ↔ value = zero)
    (fits : ∀ value, -2 ^ 63 ≤ number value ∧ number value < 2 ^ 63)
    (encoded : ∀ value, encode value = Codec.encodeInteger (Int64.ofInt (number value)))
    (decoded : ∀ stored value, decode stored = .ok value ↔
      ∃ n, Codec.decodeInteger stored = .ok n ∧ n.toInt = number value)
    (refused : ∀ stored, Foreign stored →
      (decode stored : Except CodecError α) = .error (.unexpectedType "integer" stored.kind)) :
    Lawful (Form.integer zero number) := by
  have exact (value : α) : (Int64.ofInt (number value)).toInt = number value :=
    Int64.toInt_ofInt_of_le (fits value).1 (fits value).2
  refine .of_regular (fun value _ => ?_) (fun value => ?_) (fun stored value => ?_) trivial (fun _ _ _ => trivial) refused
  · rw [encoded]
    exact (decoded _ value).mpr ⟨_, decodeInteger_encodeInteger _, exact value⟩
  · rw [encoded, encodeInteger_eq_null, ← Int64.toInt_inj, exact]
    exact vanishes value
  · rw [decoded]
    cases stored with
    | null => simp [Codec.decodeInteger, Form.integer, ← vanishes, eq_comm]
    | integer n => simp [Codec.decodeInteger, Form.integer]
    | real _ | text _ | blob _ => simp [Codec.decodeInteger, Form.integer]

theorem decodeRange_eq_ok {target : String} {range : IntRange} {ofInt : Int → α} (number : α → Int)
    (exact : ∀ n ∈ range, number (ofInt n) = n) (inside : ∀ value, number value ∈ range)
    (only : ∀ value, ofInt (number value) = value) (stored : Value) (value : α) :
    Codec.decodeRange target range ofInt stored = .ok value ↔
      ∃ n, Codec.decodeInteger stored = .ok n ∧ n.toInt = number value := by
  unfold Codec.decodeRange
  cases Codec.decodeInteger stored with
  | error error => simp [bind, Except.bind]
  | ok n =>
    simp only [bind, Except.bind, Except.ok.injEq, exists_eq_left']
    by_cases within : n.toInt ∈ range
    · rw [if_pos within, Except.ok.injEq]
      constructor
      · rintro rfl
        exact (exact _ within).symm
      · intro same
        rw [same, only]
    · rw [if_neg within]
      constructor
      · intro impossible
        cases impossible
      · intro same
        rw [same] at within
        exact absurd (inside value) within

theorem lawful_int64 : Lawful (Form.integer (0 : Int64) Int64.toInt) := by
  refine lawful_integer (fun value => ?_) (fun value => ⟨value.le_toInt, value.toInt_lt⟩) (fun value => ?_)
    (fun stored value => ?_) ?_
  · exact Int64.toInt_inj (y := 0)
  · rw [Int64.ofInt_toInt]
    rfl
  · change Codec.decodeInteger stored = .ok value ↔ _
    simp [Int64.toInt_inj]
  · rintro stored (⟨x, rfl⟩ | ⟨octets, rfl⟩) <;> rfl

theorem decode_int32_eq_ok (stored : Value) (value : Int32) :
    decode stored = .ok value ↔ ∃ n, Codec.decodeInteger stored = .ok n ∧ n.toInt = value.toInt := by
  refine decodeRange_eq_ok _ (fun n within => ?_) (fun value => ?_) Int32.ofInt_toInt stored value
  · exact Int32.toInt_ofInt_of_le within.1 (Int.lt_add_one_of_le within.2)
  · exact ⟨value.le_toInt, Int.le_of_lt_add_one value.toInt_lt⟩

theorem lawful_int32 : Lawful (Form.integer (0 : Int32) Int32.toInt) := by
  refine lawful_integer (fun value => ?_) (fun value => ?_) (fun _ => rfl) decode_int32_eq_ok ?_
  · exact Int32.toInt_inj (y := 0)
  · have low := value.le_toInt
    have high := value.toInt_lt
    omega
  · rintro stored (⟨x, rfl⟩ | ⟨octets, rfl⟩) <;> rfl

theorem lawful_uint32 : Lawful (Form.integer (0 : UInt32) fun value => value.toNat) := by
  refine lawful_integer (fun value => ?_) (fun value => ?_) (fun _ => rfl) (fun stored value => ?_) ?_
  · rw [← UInt32.toNat_inj]
    exact Int.natCast_eq_zero
  · have high := value.toNat_lt
    omega
  · refine decodeRange_eq_ok (fun value : UInt32 => (value.toNat : Int)) (fun n within => ?_)
      (fun value => ?_) (fun value => ?_) stored value
    · obtain ⟨low, high⟩ := within
      change 0 ≤ n at low
      change n ≤ 0xFFFFFFFF at high
      rw [UInt32.toNat_ofNat_of_lt' (by change n.toNat < 4294967296; omega)]
      omega
    · exact ⟨Int.natCast_nonneg _, by have high := value.toNat_lt; change (value.toNat : Int) ≤ 0xFFFFFFFF; omega⟩
    · rw [Int.toNat_natCast, UInt32.ofNat_toNat]
  · rintro stored (⟨x, rfl⟩ | ⟨octets, rfl⟩) <;> rfl

theorem ofNumber?_eq_some [Variant α] (known : ∀ value : α, Variant.ofNumber? (Variant.number value) = some value)
    {n : Int32} {value : α} : Variant.ofNumber? n = some value ↔ n = Variant.number value := by
  constructor
  · intro found
    have same := List.find?_some (show List.find? _ _ = some value from found)
    exact (beq_iff_eq.mp same).symm
  · rintro rfl
    exact known value

theorem lawful_variant [Variant α] {unset : α} (vanishes : ∀ value : α, Variant.number value = 0 ↔ value = unset)
    (known : ∀ value : α, Variant.ofNumber? (Variant.number value) = some value) :
    Lawful (Form.integer unset fun value => (Variant.number value).toInt) := by
  refine lawful_integer (fun value => ?_) (fun value => ?_) (fun _ => rfl) (fun stored value => ?_) ?_
  · rw [← vanishes]
    exact Int32.toInt_inj (y := 0)
  · have low := (Variant.number value).le_toInt
    have high := (Variant.number value).toInt_lt
    omega
  · rw [← decode_int32_eq_ok]
    change (decode stored : Except CodecError Int32) >>= _ = _ ↔ _
    cases (decode stored : Except CodecError Int32) with
    | error error => simp [bind, Except.bind]
    | ok number =>
      rw [Except.ok.injEq, ← ofNumber?_eq_some known]
      simp only [bind, Except.bind]
      cases (Variant.ofNumber? number : Option α) <;> simp
  · rintro stored (⟨x, rfl⟩ | ⟨octets, rfl⟩) <;> rfl

theorem decode_numeral_eq_ok {content : String} {value : UInt64} :
    decode (.text content) = .ok value ↔ Unsigned content.toList value.toNat := by
  have read : Unsigned content.toList value.toNat ↔ unsigned? UInt64.size content.toList = some value.toNat := by
    rw [unsigned?_eq_some]
    exact (and_iff_left value.toNat_lt).symm
  rw [read]
  simp only [decode]
  cases found : unsigned? UInt64.size content.toList with
  | none => simp
  | some n =>
    have small := (unsigned?_eq_some.mp found).2
    rw [Except.ok.injEq, Option.some.injEq, ← UInt64.toNat_inj, UInt64.toNat_ofNat_of_lt' small]

theorem decode_natural_eq_ok {n : Int64} {value : UInt64} :
    decode (.integer n) = .ok value ↔ n.toInt = value.toNat := by
  change (if 0 ≤ n.toInt then Except.ok (UInt64.ofNat n.toInt.toNat) else .error (CodecError.outOfRange "u64" n)) = _ ↔ _
  have high := n.toInt_lt
  split
  · have small : n.toInt.toNat < UInt64.size := by
      change n.toInt.toNat < 18446744073709551616
      omega
    rw [Except.ok.injEq, ← UInt64.toNat_inj, UInt64.toNat_ofNat_of_lt' small]
    omega
  · simp only [reduceCtorEq, false_iff]
    omega

theorem lawful_uint64 : Lawful Form.decimal := by
  refine .of_regular (fun value _ => faithful_uint64 value) (fun value => ?_) (fun stored value => ?_) trivial
    (fun _ _ _ => trivial) ?_
  · change (if value = 0 then Value.null else _) = .null ↔ value = 0
    split <;> simp_all
  · cases stored with
    | null => simp [decode, Form.decimal, eq_comm]
    | text content => simp [decode_numeral_eq_ok, Form.decimal]
    | integer n => simp [decode_natural_eq_ok, Form.decimal]
    | real _ | blob _ => simp [decode, Form.decimal]
  · rintro stored (⟨x, rfl⟩ | ⟨octets, rfl⟩) <;> rfl

theorem decode_date_eq_ok {content : String} {value : Option Date} :
    decode (.text content) = .ok value ↔ ∃ date, value = some date ∧ Codec.Dated content.toList date := by
  simp only [decode, ← Codec.date?_eq_some]
  cases Codec.date? content.toList <;> simp [Functor.map, Except.map, eq_comm]

theorem lawful_date : Lawful Form.date := by
  refine .of_regular (fun value regular => faithful_optionalDate regular) (fun value => ?_) (fun stored value => ?_) ?_ ?_ ?_
  · cases value with
    | none => exact ⟨fun _ => rfl, fun _ => rfl⟩
    | some date => exact ⟨fun impossible => (by cases impossible), fun impossible => (by cases impossible)⟩
  · cases stored with
    | null => simp [decode, Form.date, eq_comm]
    | text content => simp [decode_date_eq_ok, Form.date]
    | integer _ | real _ | blob _ => simp [decode, Form.date, Functor.map, Except.map]
  · rintro date ⟨⟩
  · rintro stored _ ⟨content, date, -, rfl, _, _, _, _, -, -, month, day⟩ _ ⟨⟩
    exact ⟨month.nonneg, day.nonneg⟩
  · rintro stored (⟨x, rfl⟩ | ⟨octets, rfl⟩) <;> rfl

/-- The laws of every scalar that has a zero value. -/
theorem scalars_lawful :
    Lawful Form.text ∧ Lawful (Form.integer (0 : Int32) Int32.toInt) ∧ Lawful (Form.integer (0 : Int64) Int64.toInt) ∧
      Lawful (Form.integer (0 : UInt32) fun value => value.toNat) ∧ Lawful Form.decimal ∧ Lawful Form.date ∧
      Lawful (Form.integer Rank.unspecified fun rank => (Variant.number rank).toInt) ∧
      Lawful (Form.integer Badge.unspecified fun badge => (Variant.number badge).toInt) := by
  have rank : Lawful (Form.integer Rank.unspecified fun rank => (Variant.number rank).toInt) :=
    lawful_variant (fun value => by cases value <;> decide) (fun value => by cases value <;> rfl)
  have badge : Lawful (Form.integer Badge.unspecified fun badge => (Variant.number badge).toInt) :=
    lawful_variant (fun value => by cases value <;> decide) (fun value => by cases value <;> rfl)
  exact ⟨lawful_text, lawful_int32, lawful_int64, lawful_uint32, lawful_uint64, lawful_date, rank, badge⟩

/-- A sign and zeros in front are not written back. -/
example : (decode (.text "+007") : Except CodecError UInt64) = .ok 7 ∧ encode (7 : UInt64) = .text "7" := ⟨rfl, rfl⟩

end EntityStore.Scalar
