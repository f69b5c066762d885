import EntityStore.Calendar

/-! Times as counts of microseconds. Both ways between them are exact for the times whose count does not saturate, but
for what is below a microsecond. -/

namespace EntityStore

namespace IntRange

theorem mem_signed32 {n : Int} : n ∈ signed32 ↔ -2147483648 ≤ n ∧ n ≤ 2147483647 := Iff.rfl

theorem mem_signed64 {n : Int} : n ∈ signed64 ↔ -9223372036854775808 ≤ n ∧ n ≤ 9223372036854775807 := Iff.rfl

theorem clamp_signed64 (n : Int) :
    signed64.clamp n = max (-9223372036854775808) (min n 9223372036854775807) := rfl

end IntRange

namespace Timestamp

/-- A time with its nanoseconds in range, of which neither the seconds nor the count of microseconds saturates. -/
structure Regular (t : Timestamp) : Prop where
  nanos_nonneg : 0 ≤ t.nanos.toInt
  nanos_le : t.nanos.toInt ≤ 999999999
  seconds : -9223372036854 ≤ t.seconds.toInt
  micros : t.seconds.toInt * 1000000 + t.nanos.toInt / 1000 ∈ IntRange.signed64

/-- What is below a microsecond is dropped. -/
def truncated (t : Timestamp) : Timestamp := ⟨t.seconds, Int32.ofInt (t.nanos.toInt / 1000 * 1000)⟩

theorem toInt_saturate_clamp (n : Int) : (saturate n).toInt = IntRange.signed64.clamp n := by
  rw [saturate, IntRange.clamp_signed64, Int64.toInt_ofInt_of_le (by omega) (by omega)]

theorem toInt_saturate {n : Int} (inside : n ∈ IntRange.signed64) : (saturate n).toInt = n := by
  rw [IntRange.mem_signed64] at inside
  rw [toInt_saturate_clamp, IntRange.clamp_signed64]
  omega

theorem toInt_asMicros {t : Timestamp} (regular : t.Regular) :
    t.asMicros.toInt = t.seconds.toInt * 1000000 + t.nanos.toInt / 1000 := by
  obtain ⟨nonneg, le, seconds, inside⟩ := regular
  have whole : t.seconds.toInt * 1000000 ∈ IntRange.signed64 := by
    rw [IntRange.mem_signed64] at inside ⊢
    omega
  simp only [asMicros, microsPerSecond, toInt_saturate whole, Int.tdiv_eq_ediv_of_nonneg nonneg]
  exact toInt_saturate inside

theorem fromMicros_asMicros {t : Timestamp} (regular : t.Regular) : fromMicros t.asMicros = t.truncated := by
  have count := toInt_asMicros regular
  obtain ⟨nonneg, le, -, -⟩ := regular
  have seconds : t.asMicros.toInt / microsPerSecond = t.seconds.toInt := by
    rw [count]
    change (t.seconds.toInt * 1000000 + t.nanos.toInt / 1000) / 1000000 = t.seconds.toInt
    omega
  have rest : t.asMicros.toInt % microsPerSecond = t.nanos.toInt / 1000 := by
    rw [count]
    change (t.seconds.toInt * 1000000 + t.nanos.toInt / 1000) % 1000000 = t.nanos.toInt / 1000
    omega
  rw [fromMicros, seconds, rest, Int64.ofInt_toInt]
  rfl

/-- The lowest count whose second does not saturate. -/
def lowestMicros : Int := -9223372036854000000

theorem toInt_fromMicros (micros : Int64) :
    (fromMicros micros).seconds.toInt = micros.toInt / 1000000 ∧
      (fromMicros micros).nanos.toInt = micros.toInt % 1000000 * 1000 := by
  have low := micros.le_toInt
  have high := micros.toInt_lt
  change (Int64.ofInt (micros.toInt / 1000000)).toInt = _ ∧ (Int32.ofInt (micros.toInt % 1000000 * 1000)).toInt = _
  exact ⟨Int64.toInt_ofInt_of_le (by omega) (by omega), Int32.toInt_ofInt_of_le (by omega) (by omega)⟩

theorem regular_fromMicros {micros : Int64} (low : lowestMicros ≤ micros.toInt) : (fromMicros micros).Regular := by
  obtain ⟨seconds, nanos⟩ := toInt_fromMicros micros
  change -9223372036854000000 ≤ micros.toInt at low
  have high := micros.toInt_lt
  constructor
  · omega
  · omega
  · omega
  · rw [seconds, nanos, IntRange.mem_signed64]
    omega

theorem asMicros_fromMicros {micros : Int64} (low : lowestMicros ≤ micros.toInt) :
    (fromMicros micros).asMicros = micros := by
  obtain ⟨seconds, nanos⟩ := toInt_fromMicros micros
  have count := toInt_asMicros (regular_fromMicros low)
  rw [seconds, nanos] at count
  exact Int64.toInt_inj.mp (by omega)

end Timestamp
end EntityStore
