import EntityStore.Proofs.Scouts.Patching

/-! An update of all fields and a delete that is followed by a create leave the same rows, although the one changes the
row of the entity in place and the other writes it anew. -/

namespace EntityStore
open Engine ScoutWrite

namespace Placement
variable {E : Type} {mapping : Mapping E} (placement : Placement mapping) {connection : Connection} {rows : Rows}
  {entity : E}

theorem leaves_recreated (idle : connection.autocommit = true) (holds : Holds connection rows)
    (present : mapping.id entity ≠ "") (few : placement.Few entity) :
    mapping.Leaves connection [.delete (mapping.id entity), .create entity]
      (applyAll (applyAll rows (placement.writes (.delete (mapping.id entity)))) (placement.writes (.create entity))) := by
  refine .cons (placement.done_delete idle holds (mapping.id entity)) fun after idle held => ?_
  refine placement.leaves_create idle held present few ?_ fun child member => ?_
  · rw [applyAll_delete_parent]
    exact filter_deleted _ _
  · rw [applyAll_delete_child _ _ _ member]
    exact filter_deleted _ _

include placement in
theorem overwrite_all {old : Row} (wide : old.length = placement.parent.columns.length)
    (has : hasId (mapping.id entity) old = true) :
    overwrite (Choice.values (mapping.choices entity .all)) old = mapping.row entity := by
  have values : Choice.values (mapping.choices entity .all) = (mapping.encodeColumns entity).map some := by
    rw [← placement.choices_values entity .all, Choice.values, Mapping.choices, List.map_map, List.map_map, List.map_map]
    rfl
  have full := (placement.accepted entity).length_eq
  rw [List.length_tail, ← wide] at full
  obtain ⟨present, same⟩ := hasId_iff.mp has
  rw [values, Mapping.row, encodeText_of_ne present, ← same]
  cases old with
  | nil => cases same
  | cons key rest =>
    refine congrArg (key :: ·) ?_
    rw [List.length_cons, Nat.add_sub_cancel] at full
    rw [List.zipWith_map_left, ← List.map_uncurry_zip_eq_zipWith]
    exact List.map_fst_zip full.ge

theorem overwritten_perm (holds : Holds connection rows)
    (stored : ∃ row ∈ rows placement.parent, hasId (mapping.id entity) row = true) :
    (applyAll rows (placement.writes (.update entity .all)) placement.parent).Perm
      (mapping.row entity :: (rows placement.parent).filter fun row => !hasId (mapping.id entity) row) := by
  obtain ⟨old, single⟩ := ScoutTable.single_id placement.parental holds stored
  obtain ⟨member, has⟩ := List.mem_filter.mp (single ▸ List.mem_singleton_self old)
  have wide := (holds.fits old member).length_eq.symm
  have made := placement.overwrite_all wide has
  have parts : (old :: (rows placement.parent).filter fun row => !hasId (mapping.id entity) row).Perm
      (rows placement.parent) := by
    have all := List.filter_append_perm (hasId (mapping.id entity)) (rows placement.parent)
    rw [single] at all
    exact all
  rw [applyAll_update_parent]
  split
  next empty =>
    have none : Choice.values (mapping.choices entity .all) = [] := by
      rw [Mapping.choices, List.isEmpty_iff.mp empty]
      rfl
    have bare : placement.parent.columns.length = 1 := by
      rw [ScoutTable.columns_eq, List.length_cons, (placement.accepted entity).length_eq, placement.length_columns,
        List.isEmpty_iff.mp empty, List.length_nil]
    obtain ⟨key, rfl⟩ := List.length_eq_one_iff.mp (wide.trans bare)
    rw [none] at made
    rw [← made]
    exact parts.symm
  next =>
    have changed := parts.symm.map (updated (mapping.id entity) (mapping.choices entity .all))
    have others : ((rows placement.parent).filter fun row => !hasId (mapping.id entity) row).map
        (updated (mapping.id entity) (mapping.choices entity .all)) =
          (rows placement.parent).filter fun row => !hasId (mapping.id entity) row := by
      refine (List.map_congr_left fun row inside => if_neg ?_).trans (List.map_id _)
      simpa using (List.mem_filter.mp inside).2
    rw [List.map_cons, others, updated, if_pos has, made] at changed
    exact changed

theorem overwritten_recreated (holds : Holds connection rows)
    (stored : ∃ row ∈ rows placement.parent, hasId (mapping.id entity) row = true)
    (t : ScoutTable) : (applyAll rows (placement.writes (.update entity .all)) t).Perm
      (applyAll (applyAll rows (placement.writes (.delete (mapping.id entity)))) (placement.writes (.create entity)) t) := by
  by_cases own : t = placement.parent
  · subst own
    rw [applyAll_create_parent, applyAll_delete_parent]
    exact placement.overwritten_perm holds stored
  by_cases known : t ∈ placement.children.map (·.2)
  · obtain ⟨child, member, rfl⟩ := List.mem_map.mp known
    rw [applyAll_update_child _ _ _ _ member, applyAll_create_child _ _ _ member, applyAll_delete_child _ _ _ member]
    exact .refl _
  · rw [placement.applyAll_elsewhere _ _ own known, placement.applyAll_elsewhere _ _ own known,
      placement.applyAll_elsewhere _ _ own known]

theorem recreates (idle : connection.autocommit = true) (holds : Holds connection rows)
    (stored : ∃ row ∈ rows placement.parent, hasId (mapping.id entity) row = true) (few : placement.Few entity) :
    mapping.Interchangeable connection [.update entity .all] [.delete (mapping.id entity), .create entity] := by
  have fitting : placement.Fitting (mapping.id entity) (entity, .all) := ⟨rfl, few⟩
  have updated := placement.leaves_updates idle holds stored (List.forall_mem_singleton.mpr fitting)
  have recreated := placement.leaves_recreated idle holds (ne_of_stored stored) few
  refine updated.interchangeable recreated fun t => ?_
  have once : placement.patchAll (mapping.id entity) rows [(entity, .all)] =
      applyAll rows (placement.writes (.update entity .all)) := (placement.applyAll_update rows entity .all).symm
  rw [once]
  exact placement.overwritten_recreated holds stored t

end Placement

/-- Overwriting a stored scout is the same as deleting and creating it, whatever else is in the tables. -/
theorem overwrite_recreates {connection : Connection} {rows : Rows} (idle : connection.autocommit = true)
    (holds : Holds connection rows) :
    (∀ scout : BoyScout, scout.Compact → (∃ row ∈ rows .boyScout, hasId scout.id row = true) →
      BoyScout.mapping.Interchangeable connection [.update scout .all] [.delete scout.id, .create scout]) ∧
    (∀ scout : GirlScout, (∃ row ∈ rows .girlScout, hasId scout.id row = true) →
      GirlScout.mapping.Interchangeable connection [.update scout .all] [.delete scout.id, .create scout]) := by
  refine ⟨fun scout compact stored => ?_, fun scout stored => ?_⟩
  · exact BoyScout.placement.recreates idle holds stored compact.few
  · exact GirlScout.placement.recreates idle holds stored scout.few

/-- A scout with badges is overwritten with one that has songs. -/
theorem overwrite_recreates_songs :
    let fresh := { Connection.ofDatabase (Contents.database fun _ => []) with knowsTables := true }
    let scout : BoyScout := { id := "s-1", badges := [.camping, .knots], fullName := "Ann" }
    let girl : GirlScout := ⟨"s-1"⟩
    let start := (GirlScout.mapping.performAll (BoyScout.mapping.performAll fresh [.create scout]).2 [.create girl]).2
    let other : BoyScout := { id := "s-1", favoriteSongs := ["Taps"], rank := .eagle }
    start.autocommit = true ∧ (∃ rows, Holds start rows ∧ ∃ row ∈ rows .boyScout, hasId other.id row = true) ∧
      BoyScout.mapping.Interchangeable start [.update other .all] [.delete other.id, .create other] ∧
      GirlScout.mapping.Interchangeable start [.update girl .all] [.delete girl.id, .create girl] := by
  intro fresh scout girl start other
  have opened : Fresh fresh := Fresh.memory
  have compact : scout.Compact := ⟨by decide, by decide, by decide, by decide⟩
  obtain ⟨idle, rows, holds, stored, known⟩ := opened.stores compact (by decide) (show girl.id ≠ "" by decide)
  have both := overwrite_recreates idle holds
  refine ⟨idle, ⟨rows, holds, stored⟩, both.1 other ⟨by decide, by decide, by decide, by decide⟩ stored, ?_⟩
  exact both.2 girl known

end EntityStore
