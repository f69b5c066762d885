import EntityStore.Proofs.Scouts.Steps

/-! What is always true of the rows of the scouts. Every write that goes through keeps it. -/

namespace EntityStore
open Engine

/-- Every value may stand where it stands, every row has an id, collections are numbered without gaps, and their rows
have parents. -/
structure Sound (rows : Rows) : Prop where
  accepted : ∀ t, ∀ row ∈ rows t, List.Forall₂ t.Accepts t.columns row
  identified : ∀ t, ∀ row ∈ rows t, ∃ id, hasId id row = true
  numbered : ∀ t ∈ ScoutTable.collections, ∀ id, ∃ values : List Value, values.length * 3 ≤ variableLimit ∧
    ((rows t).filter (hasId id)).Perm (elementRows (Codec.encodeText id) 0 values)
  owned : ∀ t ∈ ScoutTable.collections, ∀ id, ∀ row ∈ rows t, hasId id row = true →
    ∃ parent ∈ rows .boyScout, hasId id parent = true

theorem Sound.initial : Sound fun _ => [] where
  accepted _ _ member := absurd member List.not_mem_nil
  identified _ _ member := absurd member List.not_mem_nil
  numbered _ _ _ := ⟨[], Nat.zero_le _, .refl _⟩
  owned _ _ _ _ member := absurd member List.not_mem_nil

namespace ScoutTable
variable {t : ScoutTable} {id : String}

theorem accepts_id (present : id ≠ "") : t.Accepts (Migration.key "id") (Codec.encodeText id) where
  held := by
    rw [encodeText_of_ne present]
    exact holds_id rfl (by simp)
  plain := encodeText_parameter id
  permitted := by
    rw [encodeText_of_ne present]
    exact ⟨fun _ _ => by simpa using present, fun _ => by simp, fun same => absurd same (by decide)⟩

theorem accepted_row {values : List Value} (present : id ≠ "") (accepted : List.Forall₂ t.Accepts t.columns.tail values) :
    List.Forall₂ t.Accepts t.columns (Codec.encodeText id :: values) := by
  rw [t.columns_eq]
  exact .cons (accepts_id present) accepted

theorem accepted_element (child : t ∈ collections) (present : id ≠ "") {value : Value} (place : Nat)
    (accepted : List.Forall₂ t.Accepts (t.columns.drop 2) [value]) :
    List.Forall₂ t.Accepts t.columns [Codec.encodeText id, .integer (Int64.ofInt place), value] := by
  rw [columns_collection child]
  refine .cons (accepts_id present) (.cons ⟨⟨?_, by simp⟩, rfl, ?_⟩ accepted)
  · rw [ordinality_affinity]
    rfl
  · exact ⟨fun _ counted => absurd rfl counted, fun _ => by simp, fun same => absurd same (by decide)⟩

end ScoutTable

variable {rows : Rows} {write : ScoutWrite}

theorem ScoutWrite.accepted_change (proper : write.Proper) (allowed : write.Allowed rows) {others : List Row}
    (accepted : ∀ row ∈ others, List.Forall₂ write.table.Accepts write.table.columns row) :
    ∀ row ∈ write.change others, List.Forall₂ write.table.Accepts write.table.columns row := by
  intro row member
  cases write with
  | insert t id values =>
    rcases List.mem_cons.mp member with rfl | member
    · exact ScoutTable.accepted_row allowed.1 proper.2
    · exact accepted row member
  | fill t id first rest =>
    rcases List.mem_append.mp member with member | member
    · obtain ⟨place, value, inside, rfl⟩ := mem_elementRows member
      obtain ⟨parent, -, has⟩ := allowed.2.1
      exact ScoutTable.accepted_element proper.1 (hasId_iff.mp has).1 place (proper.2 value inside)
    · exact accepted row member
  | update t id choices =>
    obtain ⟨old, inside, rfl⟩ := List.mem_map.mp member
    exact ScoutTable.forall₂_updated proper.2 (accepted old inside)
  | delete t id => exact accepted row (List.mem_filter.mp member).1

theorem ScoutWrite.identified_change (allowed : write.Allowed rows) {others : List Row}
    (identified : ∀ row ∈ others, ∃ id, hasId id row = true) :
    ∀ row ∈ write.change others, ∃ id, hasId id row = true := by
  intro row member
  cases write with
  | insert t id values =>
    rcases List.mem_cons.mp member with rfl | member
    · exact ⟨id, hasId_row allowed.1 values⟩
    · exact identified row member
  | fill t id first rest =>
    rcases List.mem_append.mp member with member | member
    · obtain ⟨parent, -, has⟩ := allowed.2.1
      exact ⟨id, hasId_elementRows (hasId_iff.mp has).1 row member⟩
    · exact identified row member
  | update t id choices =>
    obtain ⟨old, inside, rfl⟩ := List.mem_map.mp member
    obtain ⟨known, has⟩ := identified old inside
    exact ⟨known, by rw [hasId_updated, has]⟩
  | delete t id => exact identified row (List.mem_filter.mp member).1

/-- A collection that has rows has one at the ordinal zero, so it cannot be filled. -/
theorem filter_of_distinct {t : ScoutTable} {id : String} {first : Value} {rest values : List Value}
    {others : List Row} (child : t ∈ ScoutTable.collections) (present : id ≠ "")
    (distinct : t.key.Distinct (elementRows (Codec.encodeText id) 0 (first :: rest) ++ others))
    (same : (others.filter (hasId id)).Perm (elementRows (Codec.encodeText id) 0 values)) :
    others.filter (hasId id) = [] := by
  cases values with
  | nil => exact List.perm_nil.mp same
  | cons value values =>
    have met : [Codec.encodeText id, .integer 0, value] ∈ others :=
      (List.mem_filter.mp (same.mem_iff.mpr List.mem_cons_self)).1
    refine absurd ?_ ((List.pairwise_append.mp distinct).2.2 _ List.mem_cons_self _ met)
    rw [ScoutTable.key_collection child]
    intro index member
    simp only [List.mem_cons, List.not_mem_nil, or_false] at member
    rcases member with rfl | rfl
    · rw [encodeText_of_ne present]
      exact (Value.same_text _ _).mpr rfl
    · rfl

theorem ScoutWrite.numbered_change (proper : write.Proper) (allowed : write.Allowed rows)
    (child : write.table ∈ ScoutTable.collections)
    (numbered : ∀ id, ∃ values : List Value, values.length * 3 ≤ variableLimit ∧
      ((rows write.table).filter (hasId id)).Perm (elementRows (Codec.encodeText id) 0 values)) (id : String) :
    ∃ values : List Value, values.length * 3 ≤ variableLimit ∧
      ((write.change (rows write.table)).filter (hasId id)).Perm (elementRows (Codec.encodeText id) 0 values) := by
  by_cases same : id = write.id
  · subst same
    cases write with
    | insert t id values => exact absurd child proper.1
    | fill t id first rest =>
      obtain ⟨few, ⟨parent, -, has⟩, distinct⟩ := allowed
      obtain ⟨present, -⟩ := hasId_iff.mp has
      obtain ⟨values, -, before⟩ := numbered id
      refine ⟨first :: rest, few, ?_⟩
      change ((elementRows (Codec.encodeText id) 0 (first :: rest) ++ rows t).filter (hasId id)).Perm _
      rw [filter_elementRows present, filter_of_distinct child present distinct before, List.append_nil]
      exact .refl _
    | update t id choices => exact absurd child proper.1
    | delete t id =>
      refine ⟨[], Nat.zero_le _, ?_⟩
      change (((rows t).filter fun row => !hasId id row).filter (hasId id)).Perm _
      rw [filter_deleted]
      exact .refl _
  · rw [ScoutWrite.filter_change same]
    exact numbered id

theorem ScoutWrite.kept_parent (allowed : write.Allowed rows) {id : String} {parent : Row}
    (member : parent ∈ rows .boyScout) (has : hasId id parent = true) {t : ScoutTable}
    (child : t ∈ ScoutTable.collections) {row : Row} (owned : row ∈ rows t) (found : hasId id row = true) :
    ∃ parent ∈ write.apply rows .boyScout, hasId id parent = true := by
  by_cases table : .boyScout = write.table
  · have kept : write.apply rows .boyScout = write.change (rows .boyScout) := by rw [table, ScoutWrite.apply_table]
    rw [kept]
    cases write with
    | insert t id values => exact ⟨parent, List.mem_cons_of_mem _ member, has⟩
    | fill t id first rest => exact ⟨parent, List.mem_append_right _ member, has⟩
    | update t id choices => exact ⟨_, List.mem_map_of_mem member, by rw [hasId_updated, has]⟩
    | delete u gone =>
      subst table
      have other : hasId gone parent = false := by
        refine Bool.eq_false_iff.mpr fun same => ?_
        have free := allowed rfl ⟨parent, member, same⟩ t child row owned
        rw [hasId_unique found, decide_eq_false_iff_not] at free
        rw [hasId_unique has] at same
        exact free (of_decide_eq_true same)
      exact ⟨parent, List.mem_filter.mpr ⟨member, by rw [other]; rfl⟩, has⟩
  · rw [ScoutWrite.apply_of_ne rows table]
    exact ⟨parent, member, has⟩

theorem ScoutWrite.owned_change (proper : write.Proper) (allowed : write.Allowed rows)
    (child : write.table ∈ ScoutTable.collections) {id : String} {row : Row}
    (member : row ∈ write.change (rows write.table)) (has : hasId id row = true) :
    (∃ parent ∈ rows .boyScout, hasId id parent = true) ∨ row ∈ rows write.table := by
  cases write with
  | insert t id values => exact absurd child proper.1
  | fill t filled first rest =>
    rcases List.mem_append.mp member with member | member
    · obtain ⟨parent, inside, found⟩ := allowed.2.1
      have row_has := hasId_elementRows (hasId_iff.mp found).1 row member
      rw [hasId_unique row_has] at has
      rw [of_decide_eq_true has]
      exact .inl ⟨parent, inside, found⟩
    · exact .inr member
  | update t id choices => exact absurd child proper.1
  | delete t id => exact .inr (List.mem_filter.mp member).1

/-- A write that goes through keeps the rows sound. -/
theorem Sound.step (sound : Sound rows) (proper : write.Proper) (allowed : write.Allowed rows) :
    Sound (write.apply rows) where
  accepted t row member := by
    by_cases same : t = write.table
    · subst same
      rw [ScoutWrite.apply_table] at member
      exact ScoutWrite.accepted_change proper allowed (sound.accepted _) row member
    · rw [ScoutWrite.apply_of_ne rows same] at member
      exact sound.accepted t row member
  identified t row member := by
    by_cases same : t = write.table
    · subst same
      rw [ScoutWrite.apply_table] at member
      exact ScoutWrite.identified_change allowed (sound.identified _) row member
    · rw [ScoutWrite.apply_of_ne rows same] at member
      exact sound.identified t row member
  numbered t child id := by
    by_cases same : t = write.table
    · subst same
      rw [ScoutWrite.apply_table]
      exact ScoutWrite.numbered_change proper allowed child (sound.numbered _ child) id
    · rw [ScoutWrite.apply_of_ne rows same]
      exact sound.numbered t child id
  owned t child id row member has := by
    by_cases same : t = write.table
    · subst same
      have other : .boyScout ≠ write.table := by
        intro table
        rw [← table] at child
        exact absurd child (by decide)
      rw [ScoutWrite.apply_table] at member
      rw [ScoutWrite.apply_of_ne rows other]
      rcases ScoutWrite.owned_change proper allowed child member has with parent | member
      · exact parent
      · exact sound.owned _ child id row member has
    · rw [ScoutWrite.apply_of_ne rows same] at member
      obtain ⟨parent, inside, found⟩ := sound.owned t child id row member has
      exact ScoutWrite.kept_parent allowed inside found child member has

end EntityStore
