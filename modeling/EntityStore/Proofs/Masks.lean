import EntityStore.FieldMask
import Mathlib.Data.Finset.Dedup
import Mathlib.Data.Fintype.EquivFin

/-! What masks stand for. A mask is known by the names that it includes, and its own names are all that it is made of. The
mask without names is no exception, since any other mask leaves out some name. -/

namespace EntityStore.FieldMask
variable {mask first second : FieldMask} {name : String}

theorem included_eq_true : mask.included name = true ↔ mask.fields = [] ∨ name ∈ mask.fields := by
  rw [included, isAll, Bool.or_eq_true, List.isEmpty_iff, List.contains_iff_mem]

theorem included_eq_false : mask.included name = false ↔ mask.fields ≠ [] ∧ name ∉ mask.fields := by
  rw [← Bool.not_eq_true, included_eq_true, not_or]

theorem equal_eq_true : first.equal second = true ↔ first.fields.toFinset = second.fields.toFinset := by
  rw [equal, Bool.and_eq_true, List.all_eq_true, List.all_eq_true, Finset.ext_iff]
  simp only [List.contains_iff_mem, List.mem_toFinset]
  rw [← forall_and]
  exact forall_congr' fun name => iff_def.symm

/-- There are more names than any list has. -/
theorem exists_excluded : (∃ name, mask.included name = false) ↔ mask.fields ≠ [] := by
  constructor
  · rintro ⟨name, excluded⟩
    exact (included_eq_false.mp excluded).1
  · intro named
    obtain ⟨name, absent⟩ := Infinite.exists_notMem_finset mask.fields.toFinset
    exact ⟨name, included_eq_false.mpr ⟨named, fun member => absent (List.mem_toFinset.mpr member)⟩⟩

theorem fields_eq_nil (same : ∀ name, first.included name = second.included name) :
    first.fields = [] ↔ second.fields = [] := by
  have excluded : (∃ name, first.included name = false) ↔ ∃ name, second.included name = false := by
    simp only [same]
  rw [exists_excluded, exists_excluded] at excluded
  exact not_iff_not.mp excluded

theorem included_eq_included :
    (∀ name, first.included name = second.included name) ↔ first.fields.toFinset = second.fields.toFinset := by
  constructor
  · intro same
    have empty := fields_eq_nil same
    ext name
    rw [List.mem_toFinset, List.mem_toFinset]
    have here : first.included name = true ↔ second.included name = true := by rw [same name]
    rw [included_eq_true, included_eq_true, empty] at here
    by_cases none : second.fields = []
    · rw [none, empty.mpr none]
    · simpa only [none, false_or] using here
  · intro same name
    have listed : ∀ name, name ∈ first.fields ↔ name ∈ second.fields := by
      intro name
      rw [← List.mem_toFinset, same, List.mem_toFinset]
    have empty : first.fields = [] ↔ second.fields = [] := by
      rw [List.eq_nil_iff_forall_not_mem, List.eq_nil_iff_forall_not_mem]
      exact forall_congr' fun name => not_congr (listed name)
    rw [Bool.eq_iff_iff, included_eq_true, included_eq_true, empty, listed]

/-- Masks are equal exactly when no name tells them apart, and then their lists of names differ in order and repetition
only. The mask of all fields is equal to no mask that names a field, since each of those excludes some name. -/
theorem equal_iff_alike (first second : FieldMask) :
    (first.equal second = true ↔ ∀ name, first.included name = second.included name) ∧
      ((∀ name, first.included name = second.included name) ↔ first.fields.toFinset = second.fields.toFinset) ∧
      (first.equal all = true ↔ first.fields = []) ∧
      ((∃ name, first.included name = false) ↔ first.fields ≠ []) := by
  refine ⟨equal_eq_true.trans included_eq_included.symm, included_eq_included, ?_, exists_excluded⟩
  exact equal_eq_true.trans (List.toFinset_eq_empty_iff first.fields)

end EntityStore.FieldMask
