import EntityStore.Engine.Scan
import EntityStore.Proofs.Engine.Keys
import Mathlib.Algebra.Order.Field.Rat
import Mathlib.Algebra.Order.GroupWithZero.Basic
import Mathlib.Algebra.Order.Ring.Cast
import Mathlib.Order.WithBot
import Mathlib.Tactic.Ring

/-! The order of stored values. Numbers of both kinds are compared by what they denote, and the kinds of values stand one
after the other, so the order is that of a sort: total, transitive, and with nothing equal in it but what is the same. -/

namespace EntityStore

/-- A number, with something beyond all others on either side. -/
abbrev Number := WithBot (WithTop ℚ)

namespace Binary64

/-- What a pattern denotes if it is not an infinity. -/
def finite (x : Binary64) : ℚ := (if x.negative then -1 else 1) * x.significand * 2 ^ x.power

def number (x : Binary64) : Number :=
  if x.isInfinite then (if x.negative then ⊥ else ⊤) else ((x.finite : WithTop ℚ) : Number)

theorem twoTo_cast (exponent : Nat) : ((twoTo exponent : Int) : ℚ) = 2 ^ exponent := by
  simp [twoTo]

theorem scaled_cast (x : Binary64) {unit : Int} (least : unit ≤ x.power) :
    (x.scaled unit : ℚ) = x.finite * 2 ^ (-unit) := by
  have shift : (2 : ℚ) ^ (x.power - unit).toNat = 2 ^ x.power * 2 ^ (-unit) := by
    rw [← zpow_natCast, Int.toNat_of_nonneg (by omega), ← zpow_add₀ (by decide), Int.sub_eq_add_neg]
  have magnitude : ((x.significand * twoTo (x.power - unit).toNat : Int) : ℚ) =
      x.significand * (2 ^ x.power * 2 ^ (-unit)) := by
    rw [Int.cast_mul, twoTo_cast, shift, Int.cast_natCast]
  unfold scaled finite
  dsimp only
  split
  · rw [Int.cast_neg, magnitude]
    ring
  · rw [magnitude]
    ring

theorem compare_scaled (m n : Int) {a b c : ℚ} (positive : 0 < c) (left : (m : ℚ) = a * c) (right : (n : ℚ) = b * c) :
    compare m n = compare a b := by
  have scaled : cmp (m : ℚ) n = cmp a b := by rw [left, right, cmp_mul_pos_right positive]
  rw [← cmp_eq_compare, ← cmp_eq_compare, ← scaled]
  exact (Int.cast_strictMono.cmp_map_eq m n).symm

theorem compare_finite (a b : ℚ) : compare ((a : WithTop ℚ) : Number) ((b : WithTop ℚ) : Number) = compare a b := by
  rw [← cmp_eq_compare, ← cmp_eq_compare]
  exact (WithBot.coe_strictMono.comp WithTop.coe_strictMono).cmp_map_eq a b

theorem compare_infinite (a : ℚ) :
    (compare ((a : WithTop ℚ) : Number) ⊤ = .lt ∧ compare (⊤ : Number) ((a : WithTop ℚ) : Number) = .gt) ∧
      (compare (⊥ : Number) ((a : WithTop ℚ) : Number) = .lt ∧ compare ((a : WithTop ℚ) : Number) ⊥ = .gt) ∧
      compare (⊥ : Number) ⊤ = .lt ∧ compare (⊤ : Number) ⊥ = .gt := by
  have least : (⊥ : Number) < ((a : WithTop ℚ) : Number) := WithBot.bot_lt_coe _
  have greatest : ((a : WithTop ℚ) : Number) < ⊤ := WithBot.coe_lt_coe.mpr (WithTop.coe_lt_top a)
  simp only [compare_lt_iff_lt, compare_gt_iff_gt]
  exact ⟨⟨greatest, greatest⟩, ⟨least, least⟩, least.trans greatest, least.trans greatest⟩

theorem order_eq (x y : Binary64) : x.order y = compare x.number y.number := by
  have positive (unit : Int) : (0 : ℚ) < 2 ^ (-unit) := zpow_pos (by decide) _
  unfold order number
  by_cases left : x.isInfinite = true <;> by_cases right : y.isInfinite = true
  · cases x.negative <;> cases y.negative <;> simp [left, right, compare_infinite 0]
  · cases x.negative <;> simp [left, right, compare_infinite]
  · cases y.negative <;> simp [left, right, compare_infinite]
  · rw [if_neg left, if_neg right, if_neg left, if_neg right, compare_finite]
    exact compare_scaled _ _ (positive _) (x.scaled_cast (Int.min_le_left ..)) (y.scaled_cast (Int.min_le_right ..))

theorem orderInt_eq (x : Binary64) (n : Int) : x.orderInt n = compare x.number (((n : ℚ) : WithTop ℚ) : Number) := by
  have positive (unit : Int) : (0 : ℚ) < 2 ^ (-unit) := zpow_pos (by decide) _
  have whole (unit : Int) (least : unit ≤ 0) : ((n * twoTo (-unit).toNat : Int) : ℚ) = n * 2 ^ (-unit) := by
    rw [Int.cast_mul, twoTo_cast, ← zpow_natCast, Int.toNat_of_nonneg (by omega)]
  unfold orderInt number
  by_cases infinite : x.isInfinite = true
  · cases x.negative <;> simp [infinite, compare_infinite]
  · rw [if_neg infinite, if_neg infinite, compare_finite]
    exact compare_scaled _ _ (positive _) (x.scaled_cast (Int.min_le_left ..)) (whole _ (Int.min_le_right ..))

end Binary64

namespace Value

def number? : Value → Option Number
  | .integer n => some (((n.toInt : ℚ) : WithTop ℚ) : Number)
  | .real x => some x.number
  | .null | .text _ | .blob _ => none

variable {a b c : Value}

theorem order_number {x y : Number} (left : a.number? = some x) (right : b.number? = some y) :
    a.order b = compare x y := by
  cases a <;> cases b <;> cases left <;> cases right
  case integer.integer.refl.refl m n =>
    rw [Binary64.compare_finite]
    exact Binary64.compare_scaled _ _ one_pos (mul_one _).symm (mul_one _).symm
  case integer.real.refl.refl m y =>
    rw [order, Binary64.orderInt_eq]
    exact Std.OrientedCmp.eq_swap.symm
  case real.integer.refl.refl x n => exact x.orderInt_eq _
  case real.real.refl.refl x y => exact x.order_eq y

/-- Where the kind of a value stands among the others. -/
def tier : Value → Nat
  | .null => 0
  | .integer _ | .real _ => 1
  | .text _ => 2
  | .blob _ => 3

theorem order_tier (lower : a.tier < b.tier) : a.order b = .lt := by
  cases a <;> cases b <;> simp [tier] at lower <;> rfl

theorem tier_le (below : (a.order b).isLE = true) : a.tier ≤ b.tier := by
  refine Nat.le_of_not_lt fun higher => ?_
  cases a <;> cases b <;> simp [tier] at higher <;> cases below

theorem order_swap (a b : Value) : a.order b = (b.order a).swap := by
  cases a <;> cases b <;> try rfl
  case text.text s t => exact Std.OrientedOrd.eq_swap
  case blob.blob s t => exact Std.OrientedOrd.eq_swap
  all_goals
    rw [order_number rfl rfl, order_number rfl rfl]
    exact Std.OrientedCmp.eq_swap

theorem order_trans (first : (a.order b).isLE = true) (second : (b.order c).isLE = true) :
    (a.order c).isLE = true := by
  have low := tier_le first
  have high := tier_le second
  rcases Nat.lt_or_ge a.tier c.tier with lower | level
  · rw [order_tier lower]
    rfl
  have left : a.tier = b.tier := by omega
  have right : b.tier = c.tier := by omega
  clear low high level
  cases a <;> cases b <;> simp [tier] at left <;> cases c <;> simp [tier] at right
  case null.null.null => rfl
  case text.text.text => exact Std.TransOrd.isLE_trans first second
  case blob.blob.blob => exact Std.TransOrd.isLE_trans first second
  all_goals
    rw [order_number rfl rfl] at first second ⊢
    exact Std.TransCmp.isLE_trans first second

/-- Values that are not told apart by their order are the same. -/
theorem same_of_order (present : a ≠ .null) (equal : a.order b = .eq) : a.same b = true := by
  cases a <;> cases b <;> try (cases equal; done)
  case null.null => exact absurd rfl present
  case integer.integer m n => exact beq_iff_eq.mpr (Int64.toInt_inj.mp (Std.LawfulEqOrd.eq_of_compare equal))
  case integer.real m y => exact beq_iff_eq.mpr (Ordering.swap_eq_eq.mp equal)
  case real.integer x n => exact beq_iff_eq.mpr equal
  case real.real x y => exact beq_iff_eq.mpr equal
  case text.text s t => exact beq_iff_eq.mpr (Std.LawfulEqOrd.eq_of_compare equal)
  case blob.blob s t => exact beq_iff_eq.mpr (Std.LawfulEqOrd.eq_of_compare equal)
end Value

namespace Engine

/-- Entries that are sorted by one place stand in the order of what they have there. -/
theorem Relation.sort_sorted (place : Place) (entries : List Entry) :
    (Relation.sort [place] entries).Pairwise fun a b => ((a.get place).order (b.get place)).isLE = true := by
  have compared (a b : Entry) : (Entry.order [place] a b != .gt) = ((a.get place).order (b.get place)).isLE := by
    simp only [Entry.order, List.foldr_cons, List.foldr_nil, Ordering.then_eq]
    cases (a.get place).order (b.get place) <;> rfl
  unfold Relation.sort
  simp only [compared]
  apply List.pairwise_mergeSort
  · intro a b c first second
    exact Value.order_trans first second
  · intro a b
    rw [Value.order_swap (b.get place)]
    cases (a.get place).order (b.get place) <;> rfl

end Engine
end EntityStore
