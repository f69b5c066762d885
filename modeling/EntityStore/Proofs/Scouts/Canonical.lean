import EntityStore.Proofs.Scouts.Holding
import EntityStore.Scout

/-! What may stand in the columns of the scouts. Each type has one value that stands for its zero, and the codecs write
no other. -/

namespace EntityStore
open Engine

/-- The zero of a type is NULL. Only a point in time and an ordinal may be the integer zero. -/
structure ScoutTable.Permits (t : ScoutTable) (column : String) (value : Value) : Prop where
  canonical : column ≠ "join_time" → column ≠ "ordinality" → value ≠ .integer 0 ∧ value ≠ .text ""
  trip : t = .campingTrips → value ≠ .null
  unsigned : column = "big_unsigned_int" →
    value = .null ∨ ∃ n : UInt64, n ≠ 0 ∧ value = .text (Text.Decimal.text n.toNat)

/-- A value that a column keeps as it is and that may stand in it. -/
structure ScoutTable.Accepts (t : ScoutTable) (column : Engine.Column) (value : Value) : Prop where
  held : column.Holds value
  plain : value.parameter = value
  permitted : t.Permits column.name value

namespace ScoutTable
variable {t : ScoutTable} {name : String}

theorem text_affinity : (Migration.text name).affinity = .text := by
  change Affinity.ofType "TEXT" = .text
  decide +kernel

theorem integer_affinity : (Migration.integer name).affinity = .integer := by
  change Affinity.ofType "INTEGER" = .integer
  decide +kernel

theorem accepts_null {column : Engine.Column} (optional : column.required = false) (other : t ≠ .campingTrips) :
    t.Accepts column .null where
  held := ⟨by cases column.affinity <;> rfl, by simp [optional]⟩
  plain := rfl
  permitted := ⟨fun _ _ => by simp, fun same => absurd same other, fun _ => .inl rfl⟩

theorem accepts_content {content : String} (named : name ≠ "big_unsigned_int") (present : content ≠ "") :
    t.Accepts (Migration.text name) (.text content) where
  held := ⟨by rw [text_affinity]; rfl, by simp⟩
  plain := rfl
  permitted := ⟨fun _ _ => by simpa using present, fun _ => by simp, fun same => absurd same named⟩

theorem accepts_text (named : name ≠ "big_unsigned_int") (other : t ≠ .campingTrips) (content : String) :
    t.Accepts (Migration.text name) (Codec.encodeText content) := by
  by_cases empty : content = ""
  · subst empty
    exact accepts_null rfl other
  · rw [encodeText_of_ne empty]
    exact accepts_content named empty

theorem accepts_integer (named : name ≠ "big_unsigned_int") (other : t ≠ .campingTrips) (n : Int64) :
    t.Accepts (Migration.integer name) (Codec.encodeInteger n) := by
  unfold Codec.encodeInteger
  by_cases zero : n = 0
  · rw [if_pos zero]
    exact accepts_null rfl other
  · rw [if_neg zero]
    refine ⟨⟨by rw [integer_affinity]; rfl, by simp⟩, rfl, ⟨fun _ _ => by simpa using zero, fun _ => by simp, ?_⟩⟩
    exact fun same => absurd same named

theorem accepts_time (other : t ≠ .campingTrips) (time : Option Timestamp) :
    t.Accepts (Migration.integer "join_time") (Scalar.encode time) := by
  cases time with
  | none => exact accepts_null rfl other
  | some time =>
    refine ⟨⟨?_, by simp [Scalar.encode]⟩, rfl, ⟨fun known => absurd rfl known, fun same => absurd same other, ?_⟩⟩
    · rw [integer_affinity]
      rfl
    · exact fun same => absurd same (by decide)

/-- Numerals of numbers that are not zero are no text of another number's. -/
theorem accepts_unsigned (other : t ≠ .campingTrips) (n : UInt64) :
    t.Accepts (Migration.text "big_unsigned_int") (Scalar.encode n) := by
  change t.Accepts _ (if n = 0 then .null else .text (Text.Decimal.text n.toNat))
  by_cases zero : n = 0
  · rw [if_pos zero]
    exact accepts_null rfl other
  · rw [if_neg zero]
    have present : Text.Decimal.text n.toNat ≠ "" := by
      intro empty
      have none : Text.Decimal.signed n.toNat = [] := by simpa [Text.Decimal.text] using empty
      rw [Text.Decimal.signed, if_neg (by omega)] at none
      exact Nat.toDigits_ne_nil none
    refine ⟨⟨by rw [text_affinity]; rfl, by simp⟩, rfl, ⟨fun _ _ => by simpa using present, fun _ => by simp, ?_⟩⟩
    exact fun _ => .inr ⟨n, zero, rfl⟩

theorem accepts_date (named : name ≠ "big_unsigned_int") (date : Date) :
    t.Accepts (Migration.text name) (Scalar.encode date) := by
  refine accepts_content named fun empty => ?_
  have none : Codec.dateText date = [] := by simpa using empty
  simp [Codec.dateText] at none

theorem accepts_optionalDate (named : name ≠ "big_unsigned_int") (other : t ≠ .campingTrips) (date : Option Date) :
    t.Accepts (Migration.text name) (Scalar.encode date) := by
  cases date with
  | none => exact accepts_null rfl other
  | some date => exact accepts_date named date

end ScoutTable
end EntityStore
