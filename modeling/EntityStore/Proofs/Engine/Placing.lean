import EntityStore.Engine.Change
import Mathlib.Data.List.Perm.Subperm
import Mathlib.Data.List.Nodup

/-! Numbers of rows. The entries of a table stand with the greatest number first, a new number is one that no entry has,
and an entry under such a number leaves them in that order. -/

namespace EntityStore.Engine

/-- Entries with the greatest number first, no number twice. -/
def Descending (entries : List Entry) : Prop := entries.Pairwise fun a b => b.number < a.number

instance (entries : List Entry) : Decidable (Descending entries) := inferInstanceAs (Decidable (entries.Pairwise _))

namespace Progress

theorem place_perm (entry : Entry) (entries : List Entry) : (place entry entries).Perm (entry :: entries) := by
  induction entries with
  | nil => exact .refl _
  | cons first rest ih =>
    unfold place
    split
    · exact .refl _
    · exact (ih.cons first).trans (.swap entry first rest)

theorem place_descending {entry : Entry} {entries : List Entry} (sorted : Descending entries)
    (fresh : ∀ other ∈ entries, other.number ≠ entry.number) : Descending (place entry entries) := by
  induction entries with
  | nil => exact List.pairwise_singleton _ _
  | cons first rest ih =>
    obtain ⟨below, sorted⟩ := List.pairwise_cons.mp sorted
    have different := fresh first List.mem_cons_self
    unfold place
    split
    · refine List.pairwise_cons.mpr ⟨fun other member => ?_, List.pairwise_cons.mpr ⟨below, sorted⟩⟩
      rcases List.mem_cons.mp member with rfl | member
      · assumption
      · have under := below other member
        omega
    · refine List.pairwise_cons.mpr ⟨fun other member => ?_, ih sorted fun other member => ?_⟩
      · rcases List.mem_cons.mp ((place_perm entry rest).mem_iff.mp member) with rfl | member
        · omega
        · exact below other member
      · exact fresh other (List.mem_cons_of_mem _ member)

/-- Among the first numbers, one more than there are entries, some number is not taken. -/
theorem unusedNumber_fresh (entries : List Entry) : ∀ other ∈ entries, other.number ≠ unusedNumber entries := by
  unfold unusedNumber
  generalize candidates_eq : (List.range (entries.length + 1)).map (fun index : Nat => (index : Int) + 1) = candidates
  cases found : candidates.find? fun number => entries.all (·.number != number) with
  | some number =>
    have free := List.find?_some found
    intro other member
    simpa using List.all_eq_true.mp free other member
  | none =>
    have distinct : candidates.Nodup := by
      rw [← candidates_eq]
      refine List.nodup_range.map ?_
      intro a b same
      simp only at same
      omega
    have taken : candidates ⊆ entries.map (·.number) := by
      intro number member
      have used := List.find?_eq_none.mp found number member
      obtain ⟨other, inside, same⟩ : ∃ other ∈ entries, other.number = number := by simpa using used
      exact List.mem_map.mpr ⟨other, inside, same⟩
    have short := (distinct.subperm taken).length_le
    rw [← candidates_eq] at short
    simp only [List.length_map, List.length_range] at short
    omega

theorem nextNumber_fresh {entries : List Entry} (sorted : Descending entries) :
    ∀ other ∈ entries, other.number ≠ nextNumber entries := by
  intro other member
  cases entries with
  | nil => cases member
  | cons greatest rest =>
    by_cases room : greatest.number < IntRange.signed64.high
    · simp only [nextNumber, if_pos room]
      have under : other.number ≤ greatest.number := by
        rcases List.mem_cons.mp member with rfl | member
        · exact Int.le_refl _
        · exact Int.le_of_lt ((List.pairwise_cons.mp sorted).1 other member)
      omega
    · simp only [nextNumber, if_neg room]
      exact unusedNumber_fresh _ other member

end Progress
end EntityStore.Engine
