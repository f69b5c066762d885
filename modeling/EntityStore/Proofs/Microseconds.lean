import EntityStore.Codec
import EntityStore.Proofs.Timestamps
import Mathlib.Logic.Function.Iterate

/-! Where counts of microseconds are not exact. The seconds saturate before the rest is added, so a rest of the other sign
is counted from the bound and not from where the seconds are, and the count is off by as much as they are past it. A time
that was read from a count is never of this kind, but for the lowest counts, which lie in a second that begins below the
bound. -/

namespace EntityStore

namespace IntRange

def checked? {α : Type} (range : IntRange) (ofInt : Int → α) (n : Int) : Option α :=
  if n ∈ range then some (ofInt n) else none

theorem checked?_of_mem {α : Type} (range : IntRange) (ofInt : Int → α) {n : Int} (inside : n ∈ range) :
    range.checked? ofInt n = some (ofInt n) := if_pos inside

end IntRange

namespace Timestamp

def rest (t : Timestamp) : Int := t.nanos.toInt.tdiv 1000

/-- Microseconds since the epoch over all integers. -/
def wholeMicros (t : Timestamp) : Int := t.seconds.toInt * microsPerSecond + t.rest

/-- How far the seconds are past a bound that the rest leads back from, and zero where it does not lead back. -/
def overshoot (t : Timestamp) : Int :=
  let whole := t.seconds.toInt * microsPerSecond
  if whole < IntRange.signed64.low ∧ 0 < t.rest then whole - IntRange.signed64.low
  else if IntRange.signed64.high < whole ∧ t.rest < 0 then whole - IntRange.signed64.high
  else 0

structure Proper (t : Timestamp) : Prop where
  nanos_nonneg : 0 ≤ t.nanos.toInt
  nanos_le : t.nanos.toInt ≤ 999999999

section Clamp
variable {t later : Timestamp}

theorem overshoot_eq (t : Timestamp) : t.overshoot =
    if t.seconds.toInt * 1000000 < -9223372036854775808 ∧ 0 < t.rest then
      t.seconds.toInt * 1000000 + 9223372036854775808
    else if 9223372036854775807 < t.seconds.toInt * 1000000 ∧ t.rest < 0 then
      t.seconds.toInt * 1000000 - 9223372036854775807
    else 0 := rfl

theorem rest_bounds (t : Timestamp) : -2147483 ≤ t.rest ∧ t.rest ≤ 2147483 := by
  have low : -2147483648 ≤ t.nanos.toInt := t.nanos.le_toInt
  have high : t.nanos.toInt ≤ 2147483647 := Int.le_of_lt_add_one t.nanos.toInt_lt
  have positive : (0 : Int) < 1000 := by decide
  exact ⟨Int.tdiv_le_tdiv positive low, Int.tdiv_le_tdiv positive high⟩

theorem Proper.rest_eq (proper : t.Proper) : t.rest = t.nanos.toInt / 1000 :=
  Int.tdiv_eq_ediv_of_nonneg proper.nanos_nonneg

/-- What is counted of a time is what would be exact of it, less what its seconds overshoot. -/
theorem toInt_asMicros_clamp (t : Timestamp) :
    t.asMicros.toInt = IntRange.signed64.clamp (t.wholeMicros - t.overshoot) := by
  have bounds := rest_bounds t
  have counted : t.asMicros.toInt =
      IntRange.signed64.clamp (IntRange.signed64.clamp (t.seconds.toInt * 1000000) + t.rest) := by
    rw [asMicros, toInt_saturate_clamp, toInt_saturate_clamp]
    rfl
  have exact : t.wholeMicros = t.seconds.toInt * 1000000 + t.rest := rfl
  rw [counted, exact, overshoot_eq]
  simp only [IntRange.clamp_signed64]
  split
  · omega
  · split <;> omega

theorem asMicros_exact_iff (t : Timestamp) :
    t.asMicros.toInt = IntRange.signed64.clamp t.wholeMicros ↔ t.overshoot = 0 := by
  have bounds := rest_bounds t
  have exact : t.wholeMicros = t.seconds.toInt * 1000000 + t.rest := rfl
  rw [toInt_asMicros_clamp, exact, overshoot_eq, IntRange.clamp_signed64, IntRange.clamp_signed64]
  split
  · omega
  · split <;> omega

theorem Proper.overshoot_nonpos (proper : t.Proper) : t.overshoot ≤ 0 := by
  have rest := proper.rest_eq
  have nonneg := proper.nanos_nonneg
  rw [overshoot_eq]
  split
  · omega
  · split <;> omega

theorem Proper.overshoot_eq_zero (proper : t.Proper) :
    t.overshoot = 0 ↔ -9223372036854 ≤ t.seconds.toInt ∨ t.nanos.toInt < 1000 := by
  have rest := proper.rest_eq
  have nonneg := proper.nanos_nonneg
  rw [overshoot_eq]
  split
  · omega
  · split <;> omega

theorem seconds_le_of_order (ordered : t.order later ≠ .gt) :
    t.seconds.toInt < later.seconds.toInt ∨
      t.seconds.toInt = later.seconds.toInt ∧ t.nanos.toInt ≤ later.nanos.toInt := by
  rw [order, ne_eq, Ordering.then_eq_gt, Int.compare_eq_gt, Int.compare_eq_gt, Int.compare_eq_eq] at ordered
  omega

theorem Proper.wholeMicros_le (proper : t.Proper) (also : later.Proper) (ordered : t.order later ≠ .gt) :
    t.wholeMicros ≤ later.wholeMicros := by
  have seconds := seconds_le_of_order ordered
  have here := proper.rest_eq
  have there := also.rest_eq
  obtain ⟨nonneg, le⟩ := proper
  obtain ⟨later_nonneg, later_le⟩ := also
  change t.seconds.toInt * 1000000 + t.rest ≤ later.seconds.toInt * 1000000 + later.rest
  omega

end Clamp

/-- A time is counted as what is exact of it, and saturates only where that does not fit, unless its seconds are past a
bound that its nanoseconds lead back from. Of two proper times in order the later is not counted lower, provided that the
earlier is counted exactly. -/
theorem asMicros_saturates (t : Timestamp) :
    t.asMicros.toInt = IntRange.signed64.clamp (t.wholeMicros - t.overshoot) ∧
      (t.asMicros.toInt = IntRange.signed64.clamp t.wholeMicros ↔ t.overshoot = 0) ∧
      (t.Proper → (t.overshoot = 0 ↔ -9223372036854 ≤ t.seconds.toInt ∨ t.nanos.toInt < 1000)) ∧
      ∀ later : Timestamp, t.Proper → later.Proper → t.order later ≠ .gt → t.overshoot = 0 →
        t.asMicros ≤ later.asMicros := by
  refine ⟨toInt_asMicros_clamp t, asMicros_exact_iff t, Proper.overshoot_eq_zero, ?_⟩
  intro later proper also ordered exact
  have before := proper.wholeMicros_le also ordered
  have past := also.overshoot_nonpos
  rw [Int64.le_iff_toInt_le, toInt_asMicros_clamp, toInt_asMicros_clamp, exact, IntRange.clamp_signed64,
    IntRange.clamp_signed64]
  omega

/-- Nanoseconds below a microsecond are dropped where the seconds are past the bound, and the next time is counted higher. -/
theorem asMicros_saturates_early :
    let early : Timestamp := ⟨-9223372036855, 999⟩
    let next : Timestamp := ⟨-9223372036854, 0⟩
    early.asMicros.toInt = IntRange.signed64.clamp early.wholeMicros ∧ early.asMicros ≤ next.asMicros := by
  intro early next
  obtain ⟨-, exact, region, ordered⟩ := asMicros_saturates early
  have proper : early.Proper := ⟨by decide, by decide⟩
  have none : early.overshoot = 0 := (region proper).mpr (.inr (by decide))
  exact ⟨exact.mpr none, ordered next proper ⟨by decide, by decide⟩ (by decide) none⟩

/-- A time whose count fits is counted from the bound, and higher than the time after it. -/
theorem asMicros_overshot :
    let early : Timestamp := ⟨-9223372036855, 999999000⟩
    let next : Timestamp := ⟨-9223372036854, 0⟩
    early.wholeMicros = -9223372036854000001 ∧ early.wholeMicros ∈ IntRange.signed64 ∧
      early.asMicros.toInt = -9223372036853775809 ∧
      early.order next = .lt ∧ next.asMicros < early.asMicros := by
  decide

/-! ### Counts that are read and written back -/

def fromMicros? (micros : Int64) : Option Timestamp := do
  let seconds ← IntRange.signed64.checked? Int64.ofInt (micros.toInt / microsPerSecond)
  let remainder ← IntRange.signed64.checked? Int64.ofInt (micros.toInt % microsPerSecond)
  let narrowed ← IntRange.signed32.checked? Int32.ofInt remainder.toInt
  let nanos ← IntRange.signed32.checked? Int32.ofInt (narrowed.toInt * 1000)
  return ⟨seconds, nanos⟩

structure Denotes (t : Timestamp) (micros : Int) : Prop where
  nanos_nonneg : 0 ≤ t.nanos.toInt
  nanos_le : t.nanos.toInt ≤ 999999000
  whole : 1000 ∣ t.nanos.toInt
  exact : t.seconds.toInt * 1000000000 + t.nanos.toInt = micros * 1000

/-- The count that is stored for the time that was read from a count. -/
def rewritten (micros : Int64) : Int64 := (fromMicros micros).asMicros

/-- How far the lowest counts go up when they are written back. The second that they are in begins so far below them all. -/
def drift : Int := 224192

section Rewritten
variable (micros : Int64)

theorem fromMicros?_eq : fromMicros? micros = some (fromMicros micros) := by
  have low : -9223372036854775808 ≤ micros.toInt := micros.le_toInt
  have high : micros.toInt < 9223372036854775808 := micros.toInt_lt
  have seconds := IntRange.signed64.checked?_of_mem Int64.ofInt
    (n := micros.toInt / 1000000) (IntRange.mem_signed64.mpr (by omega))
  have remainder := IntRange.signed64.checked?_of_mem Int64.ofInt
    (n := micros.toInt % 1000000) (IntRange.mem_signed64.mpr (by omega))
  have same : (Int64.ofInt (micros.toInt % 1000000)).toInt = micros.toInt % 1000000 :=
    Int64.toInt_ofInt_of_le (by omega) (by omega)
  have narrowed := IntRange.signed32.checked?_of_mem Int32.ofInt
    (n := micros.toInt % 1000000) (IntRange.mem_signed32.mpr (by omega))
  have kept : (Int32.ofInt (micros.toInt % 1000000)).toInt = micros.toInt % 1000000 :=
    Int32.toInt_ofInt_of_le (by omega) (by omega)
  have nanos := IntRange.signed32.checked?_of_mem Int32.ofInt
    (n := micros.toInt % 1000000 * 1000) (IntRange.mem_signed32.mpr (by omega))
  simp only [fromMicros?, microsPerSecond, seconds, remainder, same, narrowed, kept, nanos, Option.bind_eq_bind,
    Option.bind_some]
  rfl

theorem denotes_fromMicros : (fromMicros micros).Denotes micros.toInt := by
  obtain ⟨seconds, nanos⟩ := toInt_fromMicros micros
  constructor
  · omega
  · omega
  · rw [nanos]
    exact Int.dvd_mul_left _ _
  · omega

theorem Denotes.wholeMicros {t : Timestamp} {count : Int} (denotes : t.Denotes count) : t.wholeMicros = count := by
  obtain ⟨nonneg, -, whole, exact⟩ := denotes
  have rest : t.rest = t.nanos.toInt / 1000 := Int.tdiv_eq_ediv_of_nonneg nonneg
  change t.seconds.toInt * 1000000 + t.rest = count
  omega

theorem toInt_rewritten : (rewritten micros).toInt =
    if lowestMicros ≤ micros.toInt then micros.toInt else micros.toInt + drift := by
  split
  next low => rw [rewritten, asMicros_fromMicros low]
  next lower =>
    have lower : micros.toInt < -9223372036854000000 := Int.not_le.mp lower
    have bound : -9223372036854775808 ≤ micros.toInt := micros.le_toInt
    obtain ⟨seconds, nanos⟩ := toInt_fromMicros micros
    have rest : (fromMicros micros).rest = (fromMicros micros).nanos.toInt / 1000 :=
      Int.tdiv_eq_ediv_of_nonneg (denotes_fromMicros micros).nanos_nonneg
    have past : (fromMicros micros).overshoot = -224192 := by
      rw [overshoot_eq, if_pos (by omega)]
      omega
    rw [rewritten, toInt_asMicros_clamp, (denotes_fromMicros micros).wholeMicros, past, IntRange.clamp_signed64, drift]
    omega

theorem rewritten_iterate (times : Nat) : lowestMicros ≤ (rewritten^[times] micros).toInt ∨
    (rewritten^[times] micros).toInt = micros.toInt + times * drift := by
  induction times with
  | zero => exact .inr (by simp)
  | succ times ih =>
    have step := toInt_rewritten (rewritten^[times] micros)
    rw [Function.iterate_succ_apply', step]
    split
    next low => exact .inl low
    next lower =>
      have before := ih.resolve_left lower
      refine .inr ?_
      rw [before, Int.natCast_succ, Int.add_mul, Int.one_mul, Int.add_assoc]

theorem rewritten_eq_self : rewritten micros = micros ↔ lowestMicros ≤ micros.toInt := by
  have amount : drift = 224192 := rfl
  rw [← Int64.toInt_inj, toInt_rewritten]
  split <;> omega

theorem rewritten_iterate_eq_self (times : Nat) :
    rewritten^[times] micros = micros ↔ times = 0 ∨ lowestMicros ≤ micros.toInt := by
  constructor
  · intro same
    rcases rewritten_iterate micros times with low | moved
    · exact .inr (same ▸ low)
    · rw [same, drift] at moved
      exact .inl (by omega)
  · rintro (rfl | low)
    · rfl
    · exact Function.iterate_fixed ((rewritten_eq_self micros).mpr low) times

theorem lowest_le_rewritten_four : lowestMicros ≤ (rewritten^[4] micros).toInt := by
  have bound : -9223372036854775808 ≤ micros.toInt := micros.le_toInt
  have lowest : lowestMicros = -9223372036854000000 := rfl
  rcases rewritten_iterate micros 4 with low | moved
  · exact low
  · rw [drift] at moved
    omega

end Rewritten

/-- A count is read as a time that is exactly that count. It is stored as itself again where it is not among the lowest,
and those go up until they are none of them, which takes four times at most. -/
theorem fromMicros_exact (micros : Int64) :
    fromMicros? micros = some (fromMicros micros) ∧ (fromMicros micros).Denotes micros.toInt ∧
      (Scalar.decode (.integer micros) : Except CodecError (Option Timestamp)).map Scalar.encode =
        .ok (.integer (rewritten micros)) ∧
      ((fromMicros micros).asMicros = micros ↔ lowestMicros ≤ micros.toInt) ∧
      (∀ times, rewritten^[times] micros = micros ↔ times = 0 ∨ lowestMicros ≤ micros.toInt) ∧
      ∀ times, rewritten^[times + 4] micros = rewritten^[4] micros := by
  refine ⟨fromMicros?_eq micros, denotes_fromMicros micros, rfl, rewritten_eq_self micros,
    rewritten_iterate_eq_self micros, fun times => ?_⟩
  have settled := (rewritten_eq_self _).mpr (lowest_le_rewritten_four micros)
  rw [Function.iterate_add_apply]
  exact Function.iterate_fixed settled times

/-- The lowest count of all is stored as another, and that one as another again. -/
theorem fromMicros_lowest :
    let lowest : Int64 := Int64.minValue
    fromMicros lowest = ⟨-9223372036855, 224192000⟩ ∧ (fromMicros lowest).asMicros = lowest + 224192 ∧
      (fromMicros lowest).asMicros ≠ lowest ∧ rewritten^[2] lowest = lowest + 448384 := by
  decide

end Timestamp
end EntityStore
