import EntityStore.Proofs.Scouts.Sequences

/-! Updates as patches. A patch has new values for some of the columns and some of the collections of one id. One patch
over another is again a patch, and that is all there is to know of updates that follow one another. -/

namespace EntityStore
open Engine ScoutWrite

namespace FieldMask
variable {α : Type} {first second both : FieldMask}

def pick (mask : FieldMask) (field : String) (value : α) : Option α := if mask.included field then some value else none

theorem included_iff {mask : FieldMask} (named : mask.isAll = false) (field : String) :
    mask.included field = true ↔ field ∈ mask.fields := by
  simp only [included, named, Bool.false_or, List.contains_iff_mem]

/-- A mask that names just what one or the other names. -/
def Joins (both first second : FieldMask) : Prop :=
  ∀ field, field ∈ both.fields ↔ field ∈ first.fields ∨ field ∈ second.fields

theorem Joins.named (joins : both.Joins first second) (named : first.isAll = false) : both.isAll = false := by
  unfold isAll at named ⊢
  obtain ⟨field, rest, listed⟩ := List.exists_cons_of_ne_nil (List.isEmpty_eq_false_iff.mp named)
  have inside : field ∈ both.fields := (joins field).mpr (.inl (by rw [listed]; exact List.mem_cons_self))
  exact List.isEmpty_eq_false_iff.mpr (List.ne_nil_of_mem inside)

theorem Joins.pick (joins : both.Joins first second) (named : first.isAll = false) (other : second.isAll = false)
    (field : String) (value : α) :
    (second.pick field value).or (first.pick field value) = both.pick field value := by
  have either : both.included field = true ↔ first.included field = true ∨ second.included field = true := by
    rw [included_iff (joins.named named), included_iff named, included_iff other]
    exact joins field
  unfold FieldMask.pick
  by_cases here : second.included field = true
  · rw [if_pos here, if_pos (either.mpr (.inr here)), Option.some_or]
  · have same : both.included field = true ↔ first.included field = true := by
      rw [either]
      exact or_iff_left here
    rw [if_neg here, Option.none_or]
    exact if_congr same.symm rfl rfl

theorem pick_apart (named : first.isAll = false) (other : second.isAll = false)
    (apart : first.fields.Disjoint second.fields) (field : String) (value new : α) :
    (second.pick field new).or (first.pick field value) = (first.pick field value).or (second.pick field new) := by
  unfold pick
  by_cases here : first.included field = true
  · have away : ¬ second.included field = true := by
      rw [included_iff other]
      exact apart ((included_iff named field).mp here)
    rw [if_pos here, if_neg away]
    rfl
  · rw [if_neg here, Option.or_none, Option.none_or]

end FieldMask

structure Patch where
  columns : List (Option Value)
  elements : ScoutTable → Option (List Value)

namespace Patch

def after (later earlier : Patch) : Patch where
  columns := later.columns.zipWith Option.or earlier.columns
  elements t := (later.elements t).or (earlier.elements t)

def row (patch : Patch) (id : String) (old : Row) : Row := if hasId id old then overwrite patch.columns old else old

def refilled (patch : Patch) (id : String) (t : ScoutTable) (others : List Row) : List Row :=
  match patch.elements t with
  | some values => elementRows (Codec.encodeText id) 0 values ++ others.filter fun row => !hasId id row
  | none => others

/-- Without columns there is nothing to do for the parent row. -/
def apply (patch : Patch) (parent : ScoutTable) (id : String) (rows : Rows) : Rows := fun t =>
  if t = parent then if patch.columns.isEmpty then rows t else (rows t).map (patch.row id)
  else patch.refilled id t (rows t)

variable {later earlier : Patch} {id : String}

theorem overwrite_after (later earlier : List (Option Value)) (old : Row) :
    overwrite (later.zipWith Option.or earlier) old = overwrite later (overwrite earlier old) := by
  have values (rest : List Value) : (later.zipWith Option.or earlier).zipWith Option.getD rest =
      later.zipWith Option.getD (earlier.zipWith Option.getD rest) := by
    induction later generalizing earlier rest with
    | nil => rfl
    | cons last later ih =>
      cases earlier with
      | nil => rfl
      | cons first earlier =>
        cases rest with
        | nil => rfl
        | cons value rest =>
          rw [List.zipWith_cons_cons, List.zipWith_cons_cons, List.zipWith_cons_cons, List.zipWith_cons_cons, ih]
          cases last <;> rfl
  cases old with
  | nil => rfl
  | cons key rest => exact congrArg (key :: ·) (values rest)

theorem row_after (later earlier : Patch) (id : String) (old : Row) :
    (later.after earlier).row id old = later.row id (earlier.row id old) := by
  unfold row
  by_cases has : hasId id old = true
  · have still : hasId id (overwrite earlier.columns old) = true := by
      rw [hasId, cell_overwrite]
      exact has
    rw [if_pos has, if_pos has, if_pos still]
    exact overwrite_after _ _ _
  · rw [if_neg has, if_neg has, if_neg has]

theorem refilled_after (present : id ≠ "") (later earlier : Patch) (t : ScoutTable) (others : List Row) :
    (later.after earlier).refilled id t others = later.refilled id t (earlier.refilled id t others) := by
  unfold refilled after
  dsimp only
  cases later.elements t with
  | none => rfl
  | some values =>
    rw [Option.some_or]
    dsimp only
    cases earlier.elements t with
    | none => rfl
    | some old =>
      have gone : (elementRows (Codec.encodeText id) 0 old).filter (fun row => !hasId id row) = [] := by
        refine List.filter_eq_nil_iff.mpr fun row member => ?_
        rw [hasId_elementRows present row member]
        decide
      rw [List.filter_append, gone, List.nil_append, List.filter_filter]
      simp only [Bool.and_self]

theorem apply_after (present : id ≠ "") (wide : later.columns.length = earlier.columns.length) (parent : ScoutTable)
    (rows : Rows) : (later.after earlier).apply parent id rows = later.apply parent id (earlier.apply parent id rows) := by
  funext t
  unfold apply
  by_cases own : t = parent
  · have empty {values : List (Option Value)} (same : values.length = earlier.columns.length) :
        values.isEmpty = earlier.columns.isEmpty := by
      rw [Bool.eq_iff_iff, List.isEmpty_iff_length_eq_zero, List.isEmpty_iff_length_eq_zero, same]
    have both : (later.after earlier).columns.length = earlier.columns.length := by
      rw [after, List.length_zipWith, wide, Nat.min_self]
    rw [if_pos own, if_pos own, if_pos own, empty wide, empty both]
    split
    · rfl
    · rw [List.map_map]
      exact List.map_congr_left fun row _ => row_after later earlier id row
  · rw [if_neg own, if_neg own, if_neg own]
    exact refilled_after present later earlier t (rows t)

end Patch

namespace Placement
variable {E : Type} {mapping : Mapping E} (placement : Placement mapping)

/-- What an update has for the columns and collections, each where the mask includes its field. -/
def patch (entity : E) (mask : FieldMask) : Patch where
  columns := mapping.schema.columns.zipWith (fun column value => mask.pick column.field value)
    (mapping.encodeColumns entity)
  elements t := (placement.children.find? fun child => child.2 = t).bind fun child =>
    mask.pick child.1 (placement.elements entity t)

theorem length_patch (entity : E) (mask : FieldMask) :
    (placement.patch entity mask).columns.length = mapping.schema.columns.length := by
  rw [patch, List.length_zipWith, placement.length_columns, Nat.min_self]

theorem patch_row (entity : E) (mask : FieldMask) (id : String) :
    (placement.patch entity mask).row id = updated id (mapping.choices entity mask) := by
  have values : Choice.values (mapping.choices entity mask) = (placement.patch entity mask).columns := by
    rw [Choice.values, Mapping.choices, List.map_map, patch, ← List.map_uncurry_zip_eq_zipWith]
    rfl
  funext old
  rw [Patch.row, updated, values]

theorem find_child {child : String × ScoutTable} (member : child ∈ placement.children) :
    (placement.children.find? fun other => other.2 = child.2) = some child := by
  have apart := placement.apart
  generalize placement.children = children at member apart
  induction children with
  | nil => cases member
  | cons first rest ih =>
    rw [List.map_cons, List.nodup_cons] at apart
    rcases List.mem_cons.mp member with rfl | later
    · exact List.find?_cons_of_pos (by simp)
    · have other : ¬ first.2 = child.2 := fun same => apart.1 (by rw [same]; exact List.mem_map_of_mem later)
      rw [List.find?_cons_of_neg (by simpa using other)]
      exact ih later apart.2

theorem applyAll_update (rows : Rows) (entity : E) (mask : FieldMask) :
    applyAll rows (placement.writes (.update entity mask)) =
      (placement.patch entity mask).apply placement.parent (mapping.id entity) rows := by
  funext t
  unfold Patch.apply
  by_cases own : t = placement.parent
  · have empty : (placement.patch entity mask).columns.isEmpty = mapping.schema.columns.isEmpty := by
      rw [Bool.eq_iff_iff, List.isEmpty_iff_length_eq_zero, List.isEmpty_iff_length_eq_zero, placement.length_patch]
    rw [if_pos own, own, applyAll_update_parent, empty, patch_row]
  rw [if_neg own]
  unfold Patch.refilled
  by_cases known : t ∈ placement.children.map (·.2)
  · obtain ⟨child, member, rfl⟩ := List.mem_map.mp known
    have elements : (placement.patch entity mask).elements child.2 =
        mask.pick child.1 (placement.elements entity child.2) := by
      simp only [patch, placement.find_child member, Option.bind_some]
    rw [applyAll_update_child _ _ _ _ member, elements, FieldMask.pick]
    split <;> rfl
  · have none : (placement.children.find? fun child => child.2 = t) = none := by
      refine List.find?_eq_none.mpr fun child member same => known ?_
      rw [← of_decide_eq_true same]
      exact List.mem_map_of_mem member
    have elements : (placement.patch entity mask).elements t = .none := by
      simp only [patch, none, Option.bind_none]
    rw [placement.applyAll_elsewhere rows _ own known, elements]

section Laws

/-- Values of several entities side by side, each field that of the entity chosen for it. -/
def merged (chosen : String → Option E) : Patch where
  columns := mapping.schema.columns.mapIdx fun place column =>
    (chosen column.field).map fun entity => (mapping.encodeColumns entity).getD place .null
  elements t := (placement.children.find? fun child => child.2 = t).bind fun child =>
    (chosen child.1).map fun entity => placement.elements entity t

theorem patch_eq (entity : E) (mask : FieldMask) :
    placement.patch entity mask = placement.merged fun field => mask.pick field entity := by
  have taken {α : Type} (field : String) (take : E → α) :
      (mask.pick field entity).map take = mask.pick field (take entity) := by
    unfold FieldMask.pick
    split <;> rfl
  simp only [patch, merged, taken]
  refine congrArg₂ Patch.mk (List.ext_getElem ?_ fun place _ inside => ?_) rfl
  · rw [List.length_zipWith, List.length_mapIdx, placement.length_columns, Nat.min_self]
  · have known : place < (mapping.encodeColumns entity).length := by
      rw [placement.length_columns]
      rwa [List.length_mapIdx] at inside
    rw [List.getElem_zipWith, List.getElem_mapIdx, List.getD_eq_getElem?_getD, List.getElem?_eq_getElem known,
      Option.getD_some]

/-- The later choice counts, field by field, so that a law of updates is one of choices. -/
theorem merged_after (later earlier : String → Option E) :
    (placement.merged later).after (placement.merged earlier) =
      placement.merged fun field => (later field).or (earlier field) := by
  refine congrArg₂ Patch.mk (List.ext_getElem ?_ fun place _ _ => ?_) (funext fun t => ?_)
  · simp only [merged, List.length_zipWith, List.length_mapIdx, Nat.min_self]
  · simp only [merged, List.getElem_zipWith, List.getElem_mapIdx, Option.map_or]
  · simp only [merged, Option.map_or]
    cases placement.children.find? fun child => child.2 = t <;> rfl

variable {first second both : FieldMask}

theorem patch_joins (joins : both.Joins first second) (named : first.isAll = false) (other : second.isAll = false)
    (entity : E) : (placement.patch entity second).after (placement.patch entity first) = placement.patch entity both := by
  rw [patch_eq, patch_eq, patch_eq, merged_after]
  exact congrArg placement.merged (funext fun field => joins.pick named other field entity)

theorem patch_self (named : first.isAll = false) (entity : E) :
    (placement.patch entity first).after (placement.patch entity first) = placement.patch entity first :=
  placement.patch_joins (fun _ => or_self_iff.symm) named named entity

theorem patch_apart (named : first.isAll = false) (other : second.isAll = false)
    (apart : first.fields.Disjoint second.fields) (entity new : E) :
    (placement.patch new second).after (placement.patch entity first) =
      (placement.patch entity first).after (placement.patch new second) := by
  rw [patch_eq, patch_eq, merged_after, merged_after]
  exact congrArg placement.merged (funext fun field => FieldMask.pick_apart named other apart field entity new)

theorem patch_all (mask : FieldMask) (entity new : E) :
    (placement.patch new .all).after (placement.patch entity mask) = placement.patch new .all := by
  rw [patch_eq, patch_eq, merged_after]
  rfl

end Laws

section Runs
variable {connection : Connection} {rows : Rows} {id : String}

def Fitting (id : String) (update : E × FieldMask) : Prop := mapping.id update.1 = id ∧ placement.Few update.1

def patchAll (id : String) (rows : Rows) (updates : List (E × FieldMask)) : Rows :=
  updates.foldl (fun rows update => (placement.patch update.1 update.2).apply placement.parent id rows) rows

theorem stored_apply (patch : Patch) {parent : ScoutTable} (stored : ∃ row ∈ rows parent, hasId id row = true) :
    ∃ row ∈ patch.apply parent id rows parent, hasId id row = true := by
  obtain ⟨row, member, has⟩ := stored
  unfold Patch.apply
  rw [if_pos rfl]
  split
  · exact ⟨row, member, has⟩
  · refine ⟨_, List.mem_map_of_mem member, ?_⟩
    rw [Patch.row, if_pos has, hasId, cell_overwrite]
    exact has

theorem patchAll_pair (present : id ≠ "") (rows : Rows) (first second : E × FieldMask) :
    placement.patchAll id rows [first, second] =
      ((placement.patch second.1 second.2).after (placement.patch first.1 first.2)).apply placement.parent id rows :=
  (Patch.apply_after present
    ((placement.length_patch second.1 second.2).trans (placement.length_patch first.1 first.2).symm) _ _).symm

theorem leaves_updates (idle : connection.autocommit = true) (holds : Holds connection rows)
    (stored : ∃ row ∈ rows placement.parent, hasId id row = true) {updates : List (E × FieldMask)}
    (fitting : ∀ update ∈ updates, placement.Fitting id update) :
    mapping.Leaves connection (updates.map fun update => .update update.1 update.2)
      (placement.patchAll id rows updates) := by
  induction updates generalizing connection rows with
  | nil => exact .nil idle holds
  | cons update rest ih =>
    obtain ⟨⟨rfl, few⟩, later⟩ := List.forall_mem_cons.mp fitting
    obtain ⟨row, single⟩ := ScoutTable.single_id placement.parental holds stored
    have allowed := placement.update_allowed update.2 stored holds.distinct few
    refine .cons (placement.done_update idle holds single allowed) fun after idle held => ?_
    rw [applyAll_update] at held
    exact ih idle held (stored_apply _ stored) later

/-- Updates that patch the rows in the same way are interchangeable. -/
theorem interchangeable_updates (idle : connection.autocommit = true) (holds : Holds connection rows)
    (stored : ∃ row ∈ rows placement.parent, hasId id row = true) {first second : List (E × FieldMask)}
    (here : ∀ update ∈ first, placement.Fitting id update) (there : ∀ update ∈ second, placement.Fitting id update)
    (same : placement.patchAll id rows first = placement.patchAll id rows second) :
    mapping.Interchangeable connection (first.map fun update => .update update.1 update.2)
      (second.map fun update => .update update.1 update.2) :=
  (placement.leaves_updates idle holds stored here).interchangeable (placement.leaves_updates idle holds stored there)
    fun t => .of_eq (congrFun same t)

section Pairs
variable {a b c : E × FieldMask}

theorem fitting_pair (first : placement.Fitting id a) (second : placement.Fitting id b) :
    ∀ update ∈ [a, b], placement.Fitting id update :=
  List.forall_mem_cons.mpr ⟨first, List.forall_mem_singleton.mpr second⟩

theorem patchAll_merged (present : id ≠ "")
    (law : (placement.patch b.1 b.2).after (placement.patch a.1 a.2) = placement.patch c.1 c.2) (rows : Rows) :
    placement.patchAll id rows [a, b] = placement.patchAll id rows [c] := by
  rw [placement.patchAll_pair present, law]
  rfl

theorem patchAll_swapped (present : id ≠ "")
    (law : (placement.patch b.1 b.2).after (placement.patch a.1 a.2) =
      (placement.patch a.1 a.2).after (placement.patch b.1 b.2)) (rows : Rows) :
    placement.patchAll id rows [a, b] = placement.patchAll id rows [b, a] := by
  rw [placement.patchAll_pair present, placement.patchAll_pair present, law]

variable (idle : connection.autocommit = true) (holds : Holds connection rows)
  (stored : ∃ row ∈ rows placement.parent, hasId id row = true) (first : placement.Fitting id a)
  (second : placement.Fitting id b)

include idle holds stored first second

theorem merged_updates (both : placement.Fitting id c)
    (law : (placement.patch b.1 b.2).after (placement.patch a.1 a.2) = placement.patch c.1 c.2) :
    mapping.Interchangeable connection [.update a.1 a.2, .update b.1 b.2] [.update c.1 c.2] :=
  placement.interchangeable_updates idle holds stored (placement.fitting_pair first second)
    (List.forall_mem_singleton.mpr both) (placement.patchAll_merged (ne_of_stored stored) law rows)

theorem swapped_updates (law : (placement.patch b.1 b.2).after (placement.patch a.1 a.2) =
      (placement.patch a.1 a.2).after (placement.patch b.1 b.2)) :
    mapping.Interchangeable connection [.update a.1 a.2, .update b.1 b.2] [.update b.1 b.2, .update a.1 a.2] :=
  placement.interchangeable_updates idle holds stored (placement.fitting_pair first second)
    (placement.fitting_pair second first) (placement.patchAll_swapped (ne_of_stored stored) law rows)

theorem kept_updates (law : (placement.patch b.1 b.2).after (placement.patch a.1 a.2) =
      (placement.patch a.1 a.2).after (placement.patch b.1 b.2))
    (once : ∀ update ∈ [a, b], (placement.patch update.1 update.2).after (placement.patch update.1 update.2) =
      placement.patch update.1 update.2) :
    ∀ update ∈ [a, b], mapping.Interchangeable connection
      [.update a.1 a.2, .update b.1 b.2, .update update.1 update.2] [.update a.1 a.2, .update b.1 b.2] := by
  intro update member
  have here := placement.fitting_pair first second
  have fitting : ∀ other ∈ [a, b] ++ [update], placement.Fitting id other :=
    List.forall_mem_append.mpr ⟨here, List.forall_mem_singleton.mpr (here update member)⟩
  have twice (rows : Rows) : placement.patchAll id rows [update, update] = placement.patchAll id rows [update] :=
    placement.patchAll_merged (ne_of_stored stored) (once update member) rows
  refine placement.interchangeable_updates idle holds stored fitting here ?_
  rcases List.mem_cons.mp member with rfl | last
  · have swap := placement.patchAll_swapped (ne_of_stored stored) law rows
    calc placement.patchAll id rows ([update, b] ++ [update])
        = placement.patchAll id (placement.patchAll id rows [update, b]) [update] := List.foldl_append
      _ = placement.patchAll id (placement.patchAll id rows [b]) [update, update] := by
        rw [swap]
        rfl
      _ = placement.patchAll id (placement.patchAll id rows [b]) [update] := twice _
      _ = placement.patchAll id rows [update, b] := swap.symm
  · obtain rfl := List.mem_singleton.mp last
    exact twice (placement.patchAll id rows [a])

end Pairs

end Runs
end Placement

/-- The laws of updates to two entities with one id. -/
structure Mapping.UpdateLaws {E : Type} (mapping : Mapping E) (connection : Connection) (entity other : E) : Prop where
  joined : ∀ {first second both : FieldMask}, first.isAll = false → second.isAll = false → both.Joins first second →
    mapping.Interchangeable connection [.update entity first, .update entity second] [.update entity both]
  repeated : ∀ {mask : FieldMask}, mask.isAll = false →
    mapping.Interchangeable connection [.update entity mask, .update entity mask] [.update entity mask]
  reordered : ∀ {first second : FieldMask}, first.isAll = false → second.isAll = false →
    mapping.Interchangeable connection [.update entity first, .update entity second]
      [.update entity second, .update entity first]
  apart : ∀ {first second : FieldMask}, first.isAll = false → second.isAll = false →
    first.fields.Disjoint second.fields →
    mapping.Interchangeable connection [.update entity first, .update other second]
      [.update other second, .update entity first]
  /-- Neither of two writers of different fields loses a change: writing it once more finds it there. -/
  kept : ∀ {first second : FieldMask}, first.isAll = false → second.isAll = false →
    first.fields.Disjoint second.fields → ∀ update ∈ [(entity, first), (other, second)],
    mapping.Interchangeable connection [.update entity first, .update other second, .update update.1 update.2]
      [.update entity first, .update other second]
  overwritten : ∀ mask : FieldMask,
    mapping.Interchangeable connection [.update other mask, .update entity .all] [.update entity .all]

namespace Placement
variable {E : Type} {mapping : Mapping E} (placement : Placement mapping) {connection : Connection} {rows : Rows}

theorem updateLaws (idle : connection.autocommit = true) (holds : Holds connection rows) {entity other : E}
    (stored : ∃ row ∈ rows placement.parent, hasId (mapping.id entity) row = true)
    (same : mapping.id other = mapping.id entity) (few : placement.Few entity) (others : placement.Few other) :
    mapping.UpdateLaws connection entity other := by
  have own (mask : FieldMask) : placement.Fitting (mapping.id entity) (entity, mask) := ⟨rfl, few⟩
  have foreign (mask : FieldMask) : placement.Fitting (mapping.id entity) (other, mask) := ⟨same, others⟩
  refine ⟨fun named also joins => ?_, fun named => ?_, fun {first second} named also => ?_, fun named also apart => ?_,
    fun named also apart => ?_, fun mask => ?_⟩
  · exact placement.merged_updates idle holds stored (own _) (own _) (own _)
      (placement.patch_joins joins named also entity)
  · exact placement.merged_updates idle holds stored (own _) (own _) (own _)
      (placement.patch_self named entity)
  · have joins : FieldMask.Joins ⟨first.fields ++ second.fields⟩ first second := fun field => List.mem_append
    have turned : FieldMask.Joins ⟨first.fields ++ second.fields⟩ second first := fun field =>
      (joins field).trans or_comm
    exact placement.swapped_updates idle holds stored (own _) (own _)
      ((placement.patch_joins joins named also entity).trans (placement.patch_joins turned also named entity).symm)
  · exact placement.swapped_updates idle holds stored (own _) (foreign _)
      (placement.patch_apart named also apart entity other)
  · exact placement.kept_updates idle holds stored (own _) (foreign _) (placement.patch_apart named also apart entity other)
      (List.forall_mem_cons.mpr ⟨placement.patch_self named entity,
        List.forall_mem_singleton.mpr (placement.patch_self also other)⟩)
  · exact placement.merged_updates idle holds stored (foreign _) (own _) (own _) (placement.patch_all mask other entity)

end Placement

/-- Masked updates of stored scouts, whatever else is in the tables. -/
theorem update_laws {connection : Connection} {rows : Rows} (idle : connection.autocommit = true)
    (holds : Holds connection rows) :
    (∀ scout other : BoyScout, scout.Compact → other.Compact → other.id = scout.id →
      (∃ row ∈ rows .boyScout, hasId scout.id row = true) → BoyScout.mapping.UpdateLaws connection scout other) ∧
    (∀ scout other : GirlScout, other.id = scout.id → (∃ row ∈ rows .girlScout, hasId scout.id row = true) →
      GirlScout.mapping.UpdateLaws connection scout other) := by
  refine ⟨fun scout other first second same stored => ?_, fun scout other same stored => ?_⟩
  · exact BoyScout.placement.updateLaws idle holds stored same first.few second.few
  · exact GirlScout.placement.updateLaws idle holds stored same scout.few other.few

/-- One writer changes the badges of a scout and another one the rank. It does not matter who comes first, and neither
change is lost. -/
theorem update_laws_badges :
    let fresh := { Connection.ofDatabase (Contents.database fun _ => []) with knowsTables := true }
    let scout : BoyScout := { id := "s-1", badges := [.camping, .knots], fullName := "Ann" }
    let girl : GirlScout := ⟨"s-1"⟩
    let start := (GirlScout.mapping.performAll (BoyScout.mapping.performAll fresh [.create scout]).2 [.create girl]).2
    let first : Call BoyScout := .update { scout with badges := [.ballet], fullName := "" } ⟨["badges", "short_name"]⟩
    let second : Call BoyScout := .update { scout with badges := [], rank := .eagle } ⟨["rank"]⟩
    start.autocommit = true ∧ (∃ rows, Holds start rows ∧ ∃ row ∈ rows .boyScout, hasId scout.id row = true) ∧
      BoyScout.mapping.Interchangeable start [first, second] [second, first] ∧
      BoyScout.mapping.Interchangeable start [first, second, first] [first, second] ∧
      GirlScout.mapping.Interchangeable start [.update girl ⟨["id"]⟩, .update girl .all] [.update girl .all] := by
  intro fresh scout girl start first second
  have opened : Fresh fresh := Fresh.memory
  have compact : scout.Compact := ⟨by decide, by decide, by decide, by decide⟩
  obtain ⟨idle, rows, holds, stored, known⟩ := opened.stores compact (by decide) (show girl.id ≠ "" by decide)
  have laws := update_laws idle holds
  have both := laws.1 { scout with badges := [.ballet], fullName := "" } { scout with badges := [], rank := .eagle }
    ⟨by decide, by decide, by decide, by decide⟩ ⟨by decide, by decide, by decide, by decide⟩ rfl stored
  refine ⟨idle, ⟨rows, holds, stored⟩, ?_, ?_, ?_⟩
  · exact both.apart rfl rfl (by simp)
  · exact both.kept rfl rfl (by simp) _ List.mem_cons_self
  · exact (laws.2 girl girl rfl known).overwritten _

end EntityStore
