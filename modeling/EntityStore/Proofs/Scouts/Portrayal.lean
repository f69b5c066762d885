import EntityStore.Proofs.Scouts.Effects

/-! What the rows of an id show. Run one after the other, the writes of a call are all let through, and they leave rows
that show what the call says. -/

namespace EntityStore
open Engine ScoutWrite

namespace Placement
variable {E : Type} {mapping : Mapping E} {placement : Placement mapping}

/-- The rows with an id are those of an entity that was written, or there are none. -/
structure Shows (placement : Placement mapping) (rows : Rows) (id : String) (written : Option E) : Prop where
  named : ∀ entity ∈ written, mapping.id entity = id
  parents : (rows placement.parent).filter (hasId id) = (written.map mapping.row).toList
  elements : ∀ child ∈ placement.children, ((rows child.2).filter (hasId id)).Perm
    (written.elim [] fun entity => elementRows (Codec.encodeText id) 0 (placement.elements entity child.2))

variable {rows : Rows} {id : String} {written : Option E}

/-- What an id shows is in the tables of the placement, in any order. -/
theorem Shows.congr (shows : placement.Shows rows id written) {left : Rows}
    (same : ∀ t, t = placement.parent ∨ t ∈ placement.children.map (·.2) →
      ((left t).filter (hasId id)).Perm ((rows t).filter (hasId id))) : placement.Shows left id written where
  named := shows.named
  parents := by
    have shown := same placement.parent (.inl rfl)
    rw [shows.parents] at shown
    cases written with
    | none => exact List.perm_nil.mp shown
    | some entity => exact List.perm_singleton.mp shown
  elements child member := (same child.2 (.inr (List.mem_map_of_mem member))).trans (shows.elements child member)

theorem Shows.other (shows : placement.Shows rows id written) {call : Call E} (different : id ≠ mapping.subject call) :
    placement.Shows (applyAll rows (placement.writes call)) id written :=
  shows.congr fun t _ =>
    .of_eq (filter_applyAll (fun write member => (placement.writes_about call write member).1) different t)

theorem Shows.create {entity : E} (shows : placement.Shows rows (mapping.id entity) none)
    (present : mapping.id entity ≠ "") (distinct : ∀ t : ScoutTable, t.key.Distinct (rows t)) (few : placement.Few entity) :
    AllowedAll rows (placement.writes (.create entity)) ∧
      placement.Shows (applyAll rows (placement.writes (.create entity))) (mapping.id entity) (some entity) := by
  have free : ∀ child ∈ placement.children, (rows child.2).filter (hasId (mapping.id entity)) = [] :=
    fun child member => List.perm_nil.mp (shows.elements child member)
  have has : hasId (mapping.id entity) (mapping.row entity) = true := hasId_row present _
  refine ⟨placement.create_allowed present distinct few shows.parents free, ⟨?_, ?_, fun child member => ?_⟩⟩
  · rintro other ⟨⟩
    rfl
  · rw [applyAll_create_parent, List.filter_cons_of_pos has, shows.parents]
    rfl
  · rw [applyAll_create_child _ _ _ member, filter_elementRows present, free child member, List.append_nil]
    exact .refl _

theorem Shows.overwritten {old new merged : E} {mask : FieldMask}
    (shows : placement.Shows rows (mapping.id new) (some old)) (same : mapping.id merged = mapping.id old)
    (columns : mapping.encodeColumns merged =
      (Choice.values (mapping.choices new mask)).zipWith Option.getD (mapping.encodeColumns old)) :
    (applyAll rows (placement.writes (.update new mask)) placement.parent).filter (hasId (mapping.id new)) =
      [mapping.row merged] := by
  have row : mapping.row merged = overwrite (Choice.values (mapping.choices new mask)) (mapping.row old) := by
    rw [Mapping.row, same, columns]
    rfl
  rw [applyAll_update_parent]
  split
  next empty =>
    have bare : mapping.encodeColumns old = [] := by
      rw [← placement.choices_values old mask, Mapping.choices, List.isEmpty_iff.mp empty]
      rfl
    have kept : mapping.row merged = mapping.row old := by
      rw [Mapping.row, Mapping.row, same, columns, bare, List.zipWith_nil_right]
    rw [shows.parents, kept]
    rfl
  next => rw [filter_updated, shows.parents, row]; rfl

theorem Shows.update {old new merged : E} {mask : FieldMask}
    (shows : placement.Shows rows (mapping.id new) (some old)) (same : mapping.id merged = mapping.id old)
    (columns : mapping.encodeColumns merged =
      (Choice.values (mapping.choices new mask)).zipWith Option.getD (mapping.encodeColumns old))
    (chosen : ∀ child ∈ placement.children, placement.elements merged child.2 =
      placement.elements (if mask.included child.1 then new else old) child.2)
    (distinct : ∀ t : ScoutTable, t.key.Distinct (rows t)) (few : placement.Few new) :
    AllowedAll rows (placement.writes (.update new mask)) ∧
      placement.Shows (applyAll rows (placement.writes (.update new mask))) (mapping.id new) (some merged) := by
  have stored : mapping.row old ∈ (rows placement.parent).filter (hasId (mapping.id new)) := by
    rw [shows.parents]
    exact List.mem_cons_self
  obtain ⟨member, has⟩ := List.mem_filter.mp stored
  obtain ⟨present, -⟩ := hasId_iff.mp has
  refine ⟨placement.update_allowed mask ⟨_, member, has⟩ distinct few, ⟨?_, shows.overwritten same columns, ?_⟩⟩
  · rintro entity ⟨⟩
    exact same.trans (shows.named old rfl)
  · intro child member
    rw [applyAll_update_child _ _ _ _ member, Option.elim_some, chosen child member]
    by_cases included : mask.included child.1 = true
    · rw [if_pos included, if_pos included, filter_elementRows present, filter_deleted, List.append_nil]
    · rw [if_neg included, if_neg included]
      exact shows.elements child member

theorem shows_delete (placement : Placement mapping) (rows : Rows) (id : String) :
    AllowedAll rows (placement.writes (.delete id)) ∧
      placement.Shows (applyAll rows (placement.writes (.delete id))) id none := by
  refine ⟨placement.delete_allowed rows id, ⟨?_, ?_, fun child member => ?_⟩⟩
  · rintro entity ⟨⟩
  · rw [applyAll_delete_parent]
    exact filter_deleted id _
  · rw [applyAll_delete_child _ _ _ member, filter_deleted]
    exact .refl _

end Placement
end EntityStore
