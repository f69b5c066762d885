import EntityStore.Proofs.Scouts.Holding

/-! What the references between the tables come to for rows with ids: whether rows of a collection have a parent, and
whether a parent has rows in a collection. -/

namespace EntityStore.Contents
open Engine

variable {contents : Contents} {rows : Rows} {t : ScoutTable} {id : String}

theorem parentless (parent : t ∉ ScoutTable.collections) (touched : Nat → Bool) (row : Row) :
    (contents.database.references (contents.table t) touched).missing row = 0 := by
  rw [missing_eq, if_neg fun all => parent all.1]

theorem childless {touched : Nat → Bool} (other : t ≠ .boyScout ∨ touched 0 = false) (row : Row) :
    (contents.database.references (contents.table t) touched).children row = 0 := by
  refine (children_eq_zero t touched row).mpr fun boy meant => ?_
  rcases other with other | untouched
  · exact absurd boy other
  · rw [untouched] at meant
    cases meant

theorem hasParent_iff (stores : ∀ t : ScoutTable, Stores t.columns t.key (contents t) (rows t)) (present : id ≠ "") :
    contents.database.hasParent ScoutTable.reference (Codec.encodeText id) = true ↔
      ∃ row ∈ rows .boyScout, hasId id row = true := by
  rw [hasParent_eq, encodeText_of_ne present]
  simp only [Bool.or_eq_true, List.any_eq_true, (stores .boyScout).mem_iff, hasId, encodeText_of_ne present]
  constructor
  · rintro (null | ⟨entry, member, same⟩)
    · cases null
    · exact ⟨_, ⟨entry, member, rfl⟩, same⟩
  · rintro ⟨row, ⟨entry, member, rfl⟩, same⟩
    exact .inr ⟨entry, member, same⟩

/-- All rows of a collection with one id lack their parent, or none of them does. -/
theorem sum_missing (stores : ∀ t : ScoutTable, Stores t.columns t.key (contents t) (rows t))
    (child : t ∈ ScoutTable.collections) (present : id ≠ "") {added : List Row}
    (about : ∀ row ∈ added, cell row 0 = Codec.encodeText id) :
    (added.map (contents.database.references (contents.table t) fun _ => true).missing).sum =
      added.length * if ∃ row ∈ rows .boyScout, hasId id row = true then 0 else 1 := by
  have each : ∀ row ∈ added, (contents.database.references (contents.table t) fun _ => true).missing row =
      if ∃ row ∈ rows .boyScout, hasId id row = true then 0 else 1 := by
    intro row member
    rw [missing_eq, about row member]
    simp only [← hasParent_iff stores present, child, true_and]
    cases contents.database.hasParent ScoutTable.reference (Codec.encodeText id) <;> rfl
  rw [List.map_congr_left each, List.map_const', List.sum_replicate_nat]

theorem children_iff (stores : ∀ t : ScoutTable, Stores t.columns t.key (contents t) (rows t)) {row : Row}
    (has : hasId id row = true) :
    (contents.database.references (contents.table t) fun _ => true).children row = 0 ↔
      ¬ (t = .boyScout ∧ ∃ child ∈ ScoutTable.collections, ∃ row ∈ rows child, hasId id row = true) := by
  have same : cell row 0 = Codec.encodeText id := by
    rw [(hasId_iff.mp has).2, encodeText_of_ne (hasId_iff.mp has).1]
  rw [children_eq_zero, same]
  constructor
  · rintro none ⟨boy, child, inside, row, member, found⟩
    obtain ⟨other, known, rfl⟩ := (stores child).mem_iff.mp member
    have lost := none boy rfl child inside other known
    rw [← hasId, found] at lost
    cases lost
  · intro none boy _ child inside other member
    by_contra found
    have known := (stores child).mem_iff.mpr ⟨other, member, rfl⟩
    exact none ⟨boy, child, inside, _, known, by simpa [hasId] using found⟩

/-- Rows with an id leave some without a parent just where one of them is referred to. -/
theorem sum_children_pos (stores : ∀ t : ScoutTable, Stores t.columns t.key (contents t) (rows t)) :
    0 < (((contents t).reverse.filter fun entry => hasId id entry.values).map fun entry =>
      (contents.database.references (contents.table t) fun _ => true).children entry.values).sum ↔
      t = .boyScout ∧ (∃ row ∈ rows t, hasId id row = true) ∧
        ∃ child ∈ ScoutTable.collections, ∃ row ∈ rows child, hasId id row = true := by
  rw [List.sum_pos_iff_exists_pos_nat]
  constructor
  · rintro ⟨count, member, positive⟩
    obtain ⟨entry, inside, rfl⟩ := List.mem_map.mp member
    obtain ⟨known, has⟩ := List.mem_filter.mp inside
    have stays := (stores t).mem_iff.mpr ⟨entry, List.mem_reverse.mp known, rfl⟩
    by_contra refused
    have none := (children_iff stores has).mpr fun some => refused ⟨some.1, ⟨_, stays, has⟩, some.2⟩
    rw [none] at positive
    exact Nat.lt_irrefl 0 positive
  · rintro ⟨boy, ⟨row, member, has⟩, some⟩
    obtain ⟨entry, known, rfl⟩ := (stores t).mem_iff.mp member
    have gone : entry ∈ (contents t).reverse.filter fun entry => hasId id entry.values :=
      List.mem_filter.mpr ⟨List.mem_reverse.mpr known, has⟩
    refine ⟨_, List.mem_map_of_mem gone, Nat.pos_of_ne_zero fun none => ?_⟩
    exact (children_iff stores has).mp none ⟨boy, some⟩

end EntityStore.Contents
