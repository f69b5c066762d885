import EntityStore.Engine.Change
import Mathlib.Data.List.Pairwise

/-! Keys and what rows may share. Equality of stored values is symmetric, so whether two rows share a key does not
depend on which of them was there first. -/

namespace EntityStore

theorem Binary64.order_eq_comm (x y : Binary64) : x.order y = .eq ↔ y.order x = .eq := by
  unfold order
  by_cases left : x.isInfinite = true <;> by_cases right : y.isInfinite = true
  · cases x.negative <;> cases y.negative <;> simp [left, right]
  · cases x.negative <;> simp [left, right]
  · cases y.negative <;> simp [left, right]
  · simp only [if_neg left, if_neg right, Std.LawfulEqCmp.compare_eq_iff_eq, Int.min_comm y.power x.power]
    exact eq_comm

theorem Value.same_comm (a b : Value) : a.same b = b.same a := by
  cases a <;> cases b <;> try rfl
  case real.real x y =>
    rw [Bool.eq_iff_iff]
    simpa only [same, beq_iff_eq] using x.order_eq_comm y
  all_goals
    rw [Bool.eq_iff_iff]
    simp only [same, beq_iff_eq]
    exact eq_comm

@[simp] theorem Value.same_text (a : Value) (content : String) : a.same (.text content) = true ↔ a = .text content := by
  cases a <;> simp [same]

@[simp] theorem Value.same_null (a : Value) : a.same .null = false := by cases a <;> rfl

namespace Engine

/-- Two rows have the same values in a key. A NULL is not the same as another. -/
def Key.Shared (key : Key) (a b : Row) : Prop := ∀ index ∈ key.columns, (cell a index).same (cell b index) = true

instance (key : Key) (a b : Row) : Decidable (key.Shared a b) :=
  inferInstanceAs (Decidable (∀ index ∈ key.columns, (cell a index).same (cell b index) = true))

theorem Key.Shared.symm {key : Key} {a b : Row} (shared : key.Shared a b) : key.Shared b a := by
  intro index member
  rw [Value.same_comm]
  exact shared index member

/-- No two rows share a key. -/
def Key.Distinct (key : Key) (rows : List Row) : Prop := rows.Pairwise fun a b => ¬ key.Shared a b

instance (key : Key) (rows : List Row) : Decidable (key.Distinct rows) :=
  inferInstanceAs (Decidable (rows.Pairwise fun a b => ¬ key.Shared a b))

theorem Key.Distinct.perm {key : Key} {rows others : List Row} (distinct : key.Distinct rows)
    (same : rows.Perm others) : key.Distinct others :=
  (same.pairwise_iff fun apart shared => apart shared.symm).mp distinct

theorem Key.Distinct.eq_of_shared {key : Key} {rows : List Row} (distinct : key.Distinct rows) {a b : Row}
    (here : a ∈ rows) (there : b ∈ rows) (shared : key.Shared a b) : a = b := by
  have symmetric : Std.Symm fun a b => ¬ key.Shared a b := ⟨fun _ _ apart shared => apart shared.symm⟩
  exact by_contra fun different => distinct.forall here there different shared

theorem agrees_map (row other : Row) (columns : List Nat) :
    Relation.agrees (columns.map fun index => (index, cell row index)) other = true ↔
      ∀ index ∈ columns, (cell other index).same (cell row index) = true := by
  induction columns with
  | nil => simp [Relation.agrees]
  | cons index rest ih => simp [Relation.agrees, ih]

theorem agrees_keyValues (key : Key) (row other : Row) :
    Relation.agrees (Relation.keyValues key row) other = true ↔ key.Shared other row := by
  unfold Relation.keyValues
  rw [agrees_map]
  simp only [List.mem_reverse]
  rfl

end Engine
end EntityStore
