import EntityStore.Proofs.Scouts.Belonging
import EntityStore.Proofs.Scouts.Invariant
import EntityStore.Proofs.Scouts.Kinds
import Mathlib.Data.Set.List

/-! Every row that calls lead to is one that some entity is stored as, whichever of their writes failed. So the rows of
each id are those of an entity, though it may be one that no call was given. -/

namespace EntityStore
open Engine ScoutWrite

variable {E : Type} {mapping : Mapping E} {kind : Kind E} {placement : Placement mapping} {Storable : E → Prop}
  {rows : Rows} {write : ScoutWrite}

/-- Rows are those of entities, and so are elements, each perhaps of another. -/
structure Placement.Written (placement : Placement mapping) (rows : Rows) : Prop where
  parents : ∀ row ∈ rows placement.parent, ∃ entity, mapping.row entity = row
  elements : ∀ child ∈ placement.children, ∀ row ∈ rows child.2,
    ∃ entity, cell row 2 ∈ placement.elements entity child.2

namespace Placement.Written

theorem initial : placement.Written fun _ => [] where
  parents _ member := absurd member List.not_mem_nil
  elements _ _ _ member := absurd member List.not_mem_nil

theorem apply (written : placement.Written rows)
    (parents : write.table = placement.parent →
      ∀ row ∈ write.change (rows placement.parent), ∃ entity, mapping.row entity = row)
    (elements : ∀ child ∈ placement.children, write.table = child.2 →
      ∀ row ∈ write.change (rows child.2), ∃ entity, cell row 2 ∈ placement.elements entity child.2) :
    placement.Written (write.apply rows) where
  parents row member := by
    by_cases own : placement.parent = write.table
    · refine parents own.symm row ?_
      rw [own] at member ⊢
      rwa [apply_table] at member
    · rw [apply_of_ne rows own] at member
      exact written.parents row member
  elements child known row member := by
    by_cases own : child.2 = write.table
    · refine elements child known own.symm row ?_
      rw [own] at member ⊢
      rwa [apply_table] at member
    · rw [apply_of_ne rows own] at member
      exact written.elements child known row member

theorem elsewhere (written : placement.Written rows) (apart : write.table ∉ placement.tables) :
    placement.Written (write.apply rows) := by
  refine written.apply (fun own => absurd ?_ apart) fun child known own => absurd ?_ apart
  · rw [own]
    exact List.mem_cons_self
  · rw [own]
    exact List.mem_cons_of_mem _ (List.mem_map_of_mem known)

theorem step (lawful : kind.Lawful placement Storable) (written : placement.Written rows)
    (plans : placement.Plans write) : placement.Written (write.apply rows) := by
  cases plans with
  | insert entity =>
    refine written.apply (fun _ row member => ?_) fun child known own => absurd own (placement.parent_ne known)
    rcases List.mem_cons.mp member with rfl | member
    · exact ⟨entity, rfl⟩
    · exact written.parents row member
  | @fill entity child known first others same =>
    refine written.apply (fun own => absurd own.symm (placement.parent_ne known)) fun other inside own row member => ?_
    rcases List.mem_append.mp member with member | member
    · obtain ⟨place, value, inside, rfl⟩ := mem_elementRows member
      have own : child.2 = other.2 := own
      refine ⟨entity, ?_⟩
      rw [← own, same]
      exact inside
    · exact written.elements other inside row member
  | update entity mask =>
    refine written.apply (fun _ row member => ?_) fun child known own => absurd own (placement.parent_ne known)
    obtain ⟨stored, inside, rfl⟩ := List.mem_map.mp member
    obtain ⟨old, rfl⟩ := written.parents stored inside
    unfold updated
    split
    · refine ⟨kind.merge mask old entity, ?_⟩
      rw [Mapping.row, lawful.id_merge, lawful.columns_merge]
      rfl
    · exact ⟨old, rfl⟩
  | clear _ id | delete id =>
    refine written.apply (fun _ row member => ?_) fun child known _ row member => ?_
    · exact written.parents row (List.mem_filter.mp member).1
    · exact written.elements child known row (List.mem_filter.mp member).1

end Placement.Written

/-- Elements of different entities can be those of one, next to the row of any. -/
def Placement.Combines (placement : Placement mapping) : Prop :=
  ∀ (entity : E) (elements : ScoutTable → List Value),
    (∀ child ∈ placement.children, ∀ value ∈ elements child.2, ∃ other, value ∈ placement.elements other child.2) →
    ∃ combined, mapping.row combined = mapping.row entity ∧
      ∀ child ∈ placement.children, placement.elements combined child.2 = elements child.2

theorem BoyScout.combines : BoyScout.placement.Combines := by
  intro scout elements known
  have encoded {α : Type} [Scalar α] (get : BoyScout → List α) {t : ScoutTable} {field : String}
      (member : (field, t) ∈ BoyScout.placement.children)
      (same : ∀ scout, BoyScout.elements scout t = (get scout).map Scalar.encode) :
      ∃ values : List α, values.map Scalar.encode = elements t := by
    have range : elements t ∈ Set.range (List.map (Scalar.encode : α → Value)) := by
      rw [Set.range_list_map]
      intro value inside
      obtain ⟨other, found⟩ := known _ member value inside
      have found : value ∈ BoyScout.elements other t := found
      rw [same other] at found
      obtain ⟨element, -, encoded⟩ := List.mem_map.mp found
      exact ⟨element, encoded⟩
    exact range
  obtain ⟨badges, hasBadges⟩ := encoded BoyScout.badges (List.mem_cons_self) fun _ => rfl
  obtain ⟨songs, hasSongs⟩ := encoded favoriteSongs (.tail _ (.head _)) fun _ => rfl
  obtain ⟨trips, hasTrips⟩ := encoded campingTrips (.tail _ (.tail _ (.head _))) fun _ => rfl
  obtain ⟨fields, hasFields⟩ := encoded BoyScout.mask (.tail _ (.tail _ (.tail _ (.head _)))) fun _ => rfl
  refine ⟨{ scout with badges := badges, favoriteSongs := songs, campingTrips := trips, mask := fields }, rfl, ?_⟩
  intro child member
  simp only [placement, List.mem_cons, List.not_mem_nil, or_false] at member
  rcases member with rfl | rfl | rfl | rfl
  · exact hasBadges
  · exact hasSongs
  · exact hasTrips
  · exact hasFields

theorem GirlScout.combines : GirlScout.placement.Combines := by
  intro scout elements _
  refine ⟨scout, rfl, ?_⟩
  intro child member
  cases member

theorem Mapping.id_of_row {entity : E} {id : String} (has : hasId id (mapping.row entity) = true) :
    mapping.id entity = id := by
  obtain ⟨-, same⟩ := hasId_iff.mp has
  have same : Codec.encodeText (mapping.id entity) = .text id := same
  unfold Codec.encodeText at same
  split at same
  · cases same
  · injection same

namespace Sound

theorem elements (sound : Sound rows) (id : String) : ∃ elements : ScoutTable → List Value,
    ∀ t ∈ ScoutTable.collections, (elements t).length * 3 ≤ variableLimit ∧
      ((rows t).filter (hasId id)).Perm (elementRows (Codec.encodeText id) 0 (elements t)) := by
  have numbered := fun t child => sound.numbered t child id
  choose! elements known using numbered
  exact ⟨elements, known⟩

theorem shows_none (sound : Sound rows) {id : String}
    (none : (rows placement.parent).filter (hasId id) = []) : placement.Shows rows id .none := by
  refine ⟨?_, none, fun child known => .of_eq (List.filter_eq_nil_iff.mpr fun row member has => ?_)⟩
  · rintro entity ⟨⟩
  · obtain ⟨parent, inside, found⟩ := sound.owned child.2 (placement.inside child known) id row member has
    rw [← placement.owner child known] at inside
    exact List.filter_eq_nil_iff.mp none parent inside found

end Sound

/-- The rows of every id are those of an entity, each of whose collections one statement can hold. -/
theorem Placement.Written.shows (written : placement.Written rows) (sound : Sound rows)
    (combines : placement.Combines) (distinct : ∀ t : ScoutTable, t.key.Distinct (rows t)) (id : String) :
    ∃ stored : Option E, placement.Shows rows id stored ∧ ∀ entity ∈ stored, placement.Few entity := by
  have single := distinct placement.parent
  rw [ScoutTable.key_parent placement.parental] at single
  rcases filter_id single id with none | ⟨row, one⟩
  · refine ⟨.none, sound.shows_none none, ?_⟩
    rintro entity ⟨⟩
  have stored : row ∈ (rows placement.parent).filter (hasId id) := by
    rw [one]
    exact List.mem_cons_self
  obtain ⟨member, has⟩ := List.mem_filter.mp stored
  obtain ⟨entity, rfl⟩ := written.parents row member
  obtain ⟨values, known⟩ := sound.elements id
  obtain ⟨combined, same, elements⟩ := combines entity values fun child inside value has => by
    obtain ⟨-, listed⟩ := known child.2 (placement.inside child inside)
    obtain ⟨place, found⟩ := exists_elementRows (Codec.encodeText id) 0 has
    exact written.elements child inside _ (List.mem_filter.mp (listed.mem_iff.mpr found)).1
  refine ⟨some combined, ⟨?_, ?_, fun child inside => ?_⟩, ?_⟩
  · rintro other ⟨⟩
    rw [← same] at has
    exact mapping.id_of_row has
  · rw [one, ← same]
    rfl
  · rw [Option.elim_some, elements child inside]
    exact (known child.2 (placement.inside child inside)).2
  · rintro other ⟨⟩ child inside
    rw [elements child inside]
    exact (known child.2 (placement.inside child inside)).1

/-- Sound rows, of scouts of either kind. -/
structure Genuine (rows : Rows) : Prop where
  sound : Sound rows
  boys : BoyScout.placement.Written rows
  girls : GirlScout.placement.Written rows

theorem Reachable.genuine {connection : Connection} (reached : Reachable connection) :
    connection.autocommit = true ∧ ∃ rows, Holds connection rows ∧ Genuine rows := by
  induction reached with
  | fresh fresh => exact ⟨fresh.idle, _, fresh.holds, .initial, .initial, .initial⟩
  | boy wraps call _ ih =>
    obtain ⟨idle, rows, holds, genuine⟩ := ih
    refine BoyScout.placement.perform_keeps call (fun rows write member genuine allowed => ?_) wraps idle holds genuine
    have table := BoyScout.placement.reach_writes call write member write.table_mem_reach
    exact ⟨genuine.sound.step (BoyScout.placement.proper call write member) allowed,
      genuine.boys.step BoyScout.lawful (BoyScout.placement.plans call write member),
      genuine.girls.elsewhere (kinds_apart _ table)⟩
  | girl wraps call _ ih =>
    obtain ⟨idle, rows, holds, genuine⟩ := ih
    refine GirlScout.placement.perform_keeps call (fun rows write member genuine allowed => ?_) wraps idle holds genuine
    have table := GirlScout.placement.reach_writes call write member write.table_mem_reach
    exact ⟨genuine.sound.step (GirlScout.placement.proper call write member) allowed,
      genuine.boys.elsewhere fun boy => kinds_apart _ boy table,
      genuine.girls.step GirlScout.lawful (GirlScout.placement.plans call write member)⟩

end EntityStore
