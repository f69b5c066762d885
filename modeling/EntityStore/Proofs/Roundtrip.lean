import EntityStore.Scout
import Mathlib.Algebra.Ring.Int.Defs
import Mathlib.Data.List.TakeDrop

/-! What is read back from stored values. Every value but a point in time comes back as it was written, a date on the
condition that its month and its day have no sign. -/

namespace EntityStore

theorem IntRange.toInt_mem_signed32 (n : Int32) : n.toInt ∈ signed32 := ⟨n.le_toInt, Int.le_of_lt_add_one n.toInt_lt⟩

namespace Text.Decimal

theorem natural?_padded (zeros n : Nat) : natural? (List.replicate zeros '0' ++ numeral n) = some n := by
  have digits : (List.replicate zeros '0' ++ numeral n).all Char.isDigit = true := by
    rw [List.all_append, Bool.and_eq_true, List.all_eq_true, List.all_eq_true]
    constructor
    · intro c member
      rw [List.eq_of_mem_replicate member]
      rfl
    · exact fun c member => Nat.isDigit_of_mem_toDigits (by omega) (by omega) member
  have nonempty : (List.replicate zeros '0' ++ numeral n).isEmpty = false := by
    rw [List.isEmpty_eq_false_iff]
    exact fun empty => Nat.toDigits_ne_nil (List.append_eq_nil_iff.mp empty).2
  unfold natural?
  rw [if_neg (by rw [nonempty]; decide), if_pos digits, Nat.ofDigitChars_append, Nat.ofDigitChars_replicate_zero,
    Nat.mul_zero, numeral, Nat.ofDigitChars_toDigits (by omega) (by omega)]

theorem ne_of_mem_padded {zeros n : Nat} {c other : Char} (member : c ∈ List.replicate zeros '0' ++ numeral n)
    (sign : other.isDigit = false) : c ≠ other := by
  rintro rfl
  have digit : c.isDigit = true := by
    rcases List.mem_append.mp member with member | member
    · rw [List.eq_of_mem_replicate member]
      rfl
    · exact Nat.isDigit_of_mem_toDigits (by omega) (by omega) member
  rw [sign] at digit
  cases digit

theorem padded_of_nonneg {n : Int} (nonneg : 0 ≤ n) (width : Nat) :
    padded width n = List.replicate (width - (numeral n.natAbs).length) '0' ++ numeral n.natAbs :=
  if_neg (by omega)

end Text.Decimal

open Text.Decimal

namespace Codec

theorem splitDash_append {before : List Char} (dashless : ∀ c ∈ before, c ≠ '-') (after : List Char) :
    splitDash (before ++ '-' :: after) = some (before, after) := by
  have kept : ∀ c ∈ before, (c != '-') = true := fun c member => bne_iff_ne.mpr (dashless c member)
  unfold splitDash
  rw [List.span_eq_takeWhile_dropWhile, List.takeWhile_append_of_pos kept, List.dropWhile_append_of_pos kept]
  simp

theorem narrow?_padded {negative : Bool} {zeros : Nat} {n : Int32}
    (sign : n.toInt = if negative then -(n.toInt.natAbs : Int) else n.toInt.natAbs) :
    narrow? negative (List.replicate zeros '0' ++ numeral n.toInt.natAbs) = some n := by
  unfold narrow?
  simp only [natural?_padded, Option.bind_eq_bind, Option.bind_some, ← sign, if_pos (IntRange.toInt_mem_signed32 n),
    Int32.ofInt_toInt]

/-- A date whose sign has been taken off its year. -/
def unsignedDate? (negative : Bool) (unsigned : List Char) : Option Date := do
  let (year, rest) ← splitDash unsigned
  let (month, day) ← splitDash rest
  return ⟨← narrow? negative year, ← narrow? false month, ← narrow? false day⟩

/-- The sign of the year is a dash like those between the parts, so it is told apart first. -/
theorem date?_eq (date : Date) : ∃ (negative : Bool) (zeros : Nat),
    date.year.toInt = (if negative then -(date.year.toInt.natAbs : Int) else date.year.toInt.natAbs) ∧
      date? (dateText date) = unsignedDate? negative (List.replicate zeros '0' ++ numeral date.year.toInt.natAbs ++
        '-' :: (padded 2 date.month.toInt ++ '-' :: padded 2 date.day.toInt)) := by
  have text : dateText date = padded 4 date.year.toInt ++
      '-' :: (padded 2 date.month.toInt ++ '-' :: padded 2 date.day.toInt) := by
    simp [dateText]
  by_cases sign : date.year.toInt < 0
  · have year : padded 4 date.year.toInt = '-' ::
        (List.replicate (4 - 1 - (numeral date.year.toInt.natAbs).length) '0' ++ numeral date.year.toInt.natAbs) :=
      if_pos sign
    refine ⟨true, 4 - 1 - (numeral date.year.toInt.natAbs).length, Int.eq_neg_natAbs_of_nonpos (Int.le_of_lt sign), ?_⟩
    rw [text, year]
    rfl
  · refine ⟨false, 4 - (numeral date.year.toInt.natAbs).length, (Int.natAbs_of_nonneg (Int.not_lt.mp sign)).symm, ?_⟩
    rw [text, padded_of_nonneg (Int.not_lt.mp sign) 4]
    unfold date?
    split
    rename_i negative unsigned same
    split at same
    · rename_i rest found
      cases whole : List.replicate (4 - (numeral date.year.toInt.natAbs).length) '0' ++
          numeral date.year.toInt.natAbs with
      | nil => exact absurd (List.append_eq_nil_iff.mp whole).2 Nat.toDigits_ne_nil
      | cons c tail =>
        rw [whole] at found
        have dash : c = '-' := (List.cons.inj found).1
        exact absurd dash (ne_of_mem_padded (by rw [whole]; exact List.mem_cons_self) rfl)
    · cases same
      rfl

theorem unsignedDate?_eq {date : Date} {negative : Bool} (zeros : Nat)
    (year : date.year.toInt = if negative then -(date.year.toInt.natAbs : Int) else date.year.toInt.natAbs)
    (month : 0 ≤ date.month.toInt) (day : 0 ≤ date.day.toInt) :
    unsignedDate? negative (List.replicate zeros '0' ++ numeral date.year.toInt.natAbs ++
      '-' :: (padded 2 date.month.toInt ++ '-' :: padded 2 date.day.toInt)) = some date := by
  have monthSign : date.month.toInt =
      if false then -(date.month.toInt.natAbs : Int) else date.month.toInt.natAbs := by
    rw [if_neg (by decide)]
    omega
  have daySign : date.day.toInt = if false then -(date.day.toInt.natAbs : Int) else date.day.toInt.natAbs := by
    rw [if_neg (by decide)]
    omega
  have dashless (zeros n : Nat) : ∀ c ∈ List.replicate zeros '0' ++ numeral n, c ≠ '-' :=
    fun c member => ne_of_mem_padded member rfl
  rw [padded_of_nonneg month, padded_of_nonneg day]
  simp only [unsignedDate?, splitDash_append (dashless _ _), Option.bind_eq_bind, Option.bind_some, narrow?_padded year,
    narrow?_padded monthSign, narrow?_padded daySign]
  rfl

theorem date?_dateText {date : Date} (month : 0 ≤ date.month.toInt) (day : 0 ≤ date.day.toInt) :
    date? (dateText date) = some date := by
  obtain ⟨negative, zeros, year, read⟩ := date?_eq date
  rw [read, unsignedDate?_eq zeros year month day]

theorem narrow?_signed {n : Int} (sign : n < 0) (width : Nat) : narrow? false (padded width n) = none := by
  have dash : padded width n = '-' :: (List.replicate (width - 1 - (numeral n.natAbs).length) '0' ++ numeral n.natAbs) :=
    if_pos sign
  rw [dash]
  rfl

/-- A month or a day with a sign cannot be read. -/
theorem nonneg_of_date? {date other : Date} (read : date? (dateText date) = some other) :
    0 ≤ date.month.toInt ∧ 0 ≤ date.day.toInt := by
  obtain ⟨negative, zeros, -, same⟩ := date?_eq date
  have dashless (zeros n : Nat) : ∀ c ∈ List.replicate zeros '0' ++ numeral n, c ≠ '-' :=
    fun c member => ne_of_mem_padded member rfl
  rw [same] at read
  simp only [unsignedDate?, splitDash_append (dashless _ _), Option.bind_eq_bind, Option.bind_some] at read
  have month : 0 ≤ date.month.toInt := by
    refine Int.not_lt.mp fun sign => ?_
    have empty : splitDash (padded 2 date.month.toInt ++ '-' :: padded 2 date.day.toInt) =
        some ([], (padded 2 date.month.toInt).tail ++ '-' :: padded 2 date.day.toInt) := by
      have dash : padded 2 date.month.toInt = '-' :: (padded 2 date.month.toInt).tail := by
        unfold padded
        rw [if_pos sign]
        rfl
      rw [dash]
      rfl
    have blank : narrow? false [] = none := rfl
    simp [empty, blank] at read
  refine ⟨month, Int.not_lt.mp fun sign => ?_⟩
  rw [padded_of_nonneg month] at read
  simp only [splitDash_append (dashless _ _), Option.bind_some, narrow?_signed sign, Option.bind_none,
    Option.bind_fun_none] at read
  cases read

end Codec

open Scalar

/-- What is read back of values of a type. -/
def Scalar.Faithful {α : Type} [Scalar α] (value : α) : Prop := decode (encode value) = .ok value

namespace Scalar

theorem faithful_text (content : String) : Faithful content := by
  change decode (Codec.encodeText content) = _
  by_cases empty : content = ""
  · subst empty
    rfl
  · unfold Codec.encodeText
    rw [if_neg (by simpa using empty)]
    rfl

theorem decodeInteger_encodeInteger (n : Int64) : Codec.decodeInteger (Codec.encodeInteger n) = .ok n := by
  unfold Codec.encodeInteger
  by_cases zero : n = 0
  · rw [if_pos zero, zero]
    rfl
  · rw [if_neg zero]
    rfl

theorem faithful_int64 (n : Int64) : Faithful n := decodeInteger_encodeInteger n

theorem decodeRange_encodeInteger {target : String} {range : IntRange} {ofInt : Int → α} {n : Int} (inside : n ∈ range)
    (low : -2 ^ 63 ≤ n) (high : n < 2 ^ 63) :
    Codec.decodeRange target range ofInt (Codec.encodeInteger (Int64.ofInt n)) = .ok (ofInt n) := by
  have same : (Int64.ofInt n).toInt = n := Int64.toInt_ofInt_of_le low high
  simp only [Codec.decodeRange, decodeInteger_encodeInteger, bind, Except.bind, same, if_pos inside]

theorem faithful_uint32 (n : UInt32) : Faithful n := by
  have high := n.toNat_lt
  refine (decodeRange_encodeInteger ?_ (by omega) (by omega)).trans ?_
  · constructor
    · change 0 ≤ (n.toNat : Int)
      omega
    · change (n.toNat : Int) ≤ 0xFFFFFFFF
      omega
  · simp

theorem faithful_uint64 (n : UInt64) : Faithful n := by
  unfold Faithful
  change decode (if n = 0 then .null else .text (Text.Decimal.text n.toNat)) = _
  by_cases zero : n = 0
  · rw [if_pos zero, zero]
    rfl
  rw [if_neg zero]
  have digits : (Text.Decimal.text n.toNat).toList = numeral n.toNat := by
    simp [Text.Decimal.text, signed]
  have unsigned : unsigned? UInt64.size (numeral n.toNat) = some n.toNat := by
    have bound : n.toNat < UInt64.size := n.toNat_lt
    unfold unsigned?
    split
    · rename_i rest found
      have member : '+' ∈ List.replicate 0 '0' ++ numeral n.toNat := by
        rw [found]
        exact List.mem_cons_self
      exact absurd rfl (ne_of_mem_padded member rfl)
    · dsimp only
      rw [natural?_numeral, Option.filter_some, if_pos (decide_eq_true bound)]
  simp only [decode, digits, unsigned, UInt64.ofNat_toNat]

theorem faithful_date {date : Date} (month : 0 ≤ date.month) (day : 0 ≤ date.day) : Faithful date := by
  have month : 0 ≤ date.month.toInt := Int32.le_iff_toInt_le.mp month
  have day : 0 ≤ date.day.toInt := Int32.le_iff_toInt_le.mp day
  change decode (.text (String.ofList (Codec.dateText date))) = _
  simp only [decode, String.toList_ofList, Codec.date?_dateText month day]

theorem nonneg_of_decode {date other : Date} (read : decode (encode date) = .ok other) :
    0 ≤ date.month ∧ 0 ≤ date.day := by
  change decode (.text (String.ofList (Codec.dateText date))) = _ at read
  simp only [decode, String.toList_ofList] at read
  split at read
  · rename_i found
    obtain ⟨month, day⟩ := Codec.nonneg_of_date? found
    exact ⟨Int32.le_iff_toInt_le.mpr month, Int32.le_iff_toInt_le.mpr day⟩
  · cases read

theorem faithful_optionalDate {date : Option Date}
    (unsigned : ∀ day ∈ date, 0 ≤ day.month ∧ 0 ≤ day.day) : Faithful date := by
  cases date with
  | none => rfl
  | some date =>
    obtain ⟨month, day⟩ := unsigned date rfl
    have same : decode (encode date) = Except.ok date := faithful_date month day
    change (some <$> decode (encode date)) = _
    rw [same]
    rfl

theorem decode_time (time : Option Timestamp) :
    decode (encode time) = Except.ok (time.map fun time => Timestamp.fromMicros time.asMicros) := by
  cases time <;> rfl

theorem faithful_rank (rank : Rank) : Faithful rank := by cases rank <;> rfl

theorem faithful_badge (badge : Badge) : Faithful badge := by cases badge <;> rfl

theorem decodeAll_encode {α : Type} [Scalar α] {values : List α} (faithful : ∀ value ∈ values, Faithful value) :
    Codec.decodeAll (values.map encode) = .ok values := by
  induction values with
  | nil => rfl
  | cons value rest ih =>
    have here : decode (encode value) = Except.ok value := faithful value List.mem_cons_self
    have later := ih fun other member => faithful other (List.mem_cons_of_mem _ member)
    rw [List.map_cons, Codec.decodeAll, here, later]
    rfl

theorem decodeAll_texts (contents : List String) : Codec.decodeAll (contents.map encode) = .ok contents :=
  decodeAll_encode fun content _ => faithful_text content

theorem decodeAll_badges (badges : List Badge) : Codec.decodeAll (badges.map encode) = .ok badges :=
  decodeAll_encode fun badge _ => faithful_badge badge

theorem decode_of_decodeAll {α : Type} [Scalar α] {stored : List Value} {values : List α}
    (read : Codec.decodeAll stored = .ok values) : ∀ value ∈ stored, ∃ result : α, decode value = .ok result := by
  induction stored generalizing values with
  | nil => intro value member; cases member
  | cons first rest ih =>
    rw [Codec.decodeAll] at read
    cases here : (decode first : Except CodecError α) with
    | error error =>
      rw [here] at read
      cases read
    | ok result =>
      cases later : (Codec.decodeAll rest : Except CodecError (List α)) with
      | error error =>
        rw [here, later] at read
        cases read
      | ok others => exact List.forall_mem_cons.mpr ⟨⟨result, here⟩, ih later⟩

end Scalar
end EntityStore
