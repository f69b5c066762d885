import EntityStore.Proofs.Scouts.Placement
import EntityStore.Proofs.Scouts.Reading

/-! What the writes of a call make of the rows of each table. Each call is a list of writes about one id; run one after
the other they are all let through, and what becomes of one table depends on no other. -/

namespace EntityStore
open Engine

namespace ScoutWrite

/-- Every write is let through by what those before it leave. -/
def AllowedAll (rows : Rows) : List ScoutWrite → Prop
  | [] => True
  | write :: rest => write.Allowed rows ∧ AllowedAll (write.apply rows) rest

def applyAll (rows : Rows) : List ScoutWrite → Rows
  | [] => rows
  | write :: rest => applyAll (write.apply rows) rest

variable {rows : Rows}

theorem applyAll_append (first rest : List ScoutWrite) :
    applyAll rows (first ++ rest) = applyAll (applyAll rows first) rest := by
  induction first generalizing rows with
  | nil => rfl
  | cons write first ih => exact ih

theorem allowedAll_append {first rest : List ScoutWrite} (early : AllowedAll rows first)
    (late : AllowedAll (applyAll rows first) rest) : AllowedAll rows (first ++ rest) := by
  induction first generalizing rows with
  | nil => exact late
  | cons write first ih => exact ⟨early.1, ih early.2 late⟩

theorem applyAll_of_ne {writes : List ScoutWrite} {t : ScoutTable} (others : ∀ write ∈ writes, write.table ≠ t) :
    applyAll rows writes t = rows t := by
  induction writes generalizing rows with
  | nil => rfl
  | cons write rest ih =>
    obtain ⟨here, later⟩ := List.forall_mem_cons.mp others
    rw [applyAll, ih later, apply_of_ne rows (Ne.symm here)]

theorem applyAll_congr {others : Rows} {t : ScoutTable} (same : rows t = others t) (writes : List ScoutWrite) :
    applyAll rows writes t = applyAll others writes t := by
  induction writes generalizing rows others with
  | nil => exact same
  | cons write rest ih =>
    refine ih ?_
    by_cases own : t = write.table
    · subst own
      rw [apply_table, apply_table, same]
    · rw [apply_of_ne rows own, apply_of_ne others own, same]

theorem filter_applyAll {writes : List ScoutWrite} {id other : String} (about : ∀ write ∈ writes, write.id = id)
    (different : other ≠ id) (t : ScoutTable) :
    (applyAll rows writes t).filter (hasId other) = (rows t).filter (hasId other) := by
  induction writes generalizing rows with
  | nil => rfl
  | cons write rest ih =>
    obtain ⟨here, later⟩ := List.forall_mem_cons.mp about
    rw [applyAll, ih later]
    by_cases same : t = write.table
    · subst same
      rw [apply_table, filter_change (by rw [here]; exact different)]
    · rw [apply_of_ne rows same]

end ScoutWrite

open ScoutWrite

section Collection
variable {rows : Rows} {t : ScoutTable} {id : String} {values : List Value}

/-- New elements do not meet each other, and nothing else where the collection has been empty. -/
theorem distinct_elementRows (child : t ∈ ScoutTable.collections) (few : values.length < 2 ^ 63)
    {others : List Row} (distinct : t.key.Distinct others) (free : others.filter (hasId id) = []) :
    t.key.Distinct (elementRows (Codec.encodeText id) 0 values ++ others) := by
  rw [ScoutTable.key_collection child] at distinct ⊢
  refine List.pairwise_append.mpr ⟨?_, distinct, fun row member other inside shared => ?_⟩
  · have rising := (elementRows_rising (Codec.encodeText id) 0 (by omega : 0 + values.length < 2 ^ 63)).1
    refine rising.imp_of_mem fun {first second} one two below shared => ?_
    obtain ⟨place, value, -, rfl⟩ := mem_elementRows one
    obtain ⟨later, last, -, rfl⟩ := mem_elementRows two
    have same : Int64.ofInt place = Int64.ofInt later := beq_iff_eq.mp (shared 1 (by simp))
    simp only [ordinal, cell, same] at below
    exact Int.lt_irrefl _ below
  · have has : hasId id other = true := by
      have same := shared 0 (by simp)
      obtain ⟨place, value, -, rfl⟩ := mem_elementRows member
      rw [Value.same_comm] at same
      exact same
    exact List.filter_eq_nil_iff.mp free other inside has

theorem apply_delete (rows : Rows) (t : ScoutTable) (id : String) :
    (ScoutWrite.delete t id).apply rows t = (rows t).filter fun row => !hasId id row := apply_table rows (.delete t id)

theorem table_fills : ∀ write ∈ fills t id values, write.table = t ∧ write.id = id := by
  cases values with
  | nil => intro write member; cases member
  | cons first rest =>
    intro write member
    rw [List.mem_singleton.mp member]
    exact ⟨rfl, rfl⟩

theorem table_refills : ∀ write ∈ refills t id values, write.table = t ∧ write.id = id :=
  List.forall_mem_cons.mpr ⟨⟨rfl, rfl⟩, table_fills⟩

theorem applyAll_fills (rows : Rows) (t : ScoutTable) (id : String) (values : List Value) :
    applyAll rows (fills t id values) t = elementRows (Codec.encodeText id) 0 values ++ rows t := by
  cases values with
  | nil => rfl
  | cons first rest => exact apply_table rows (.fill t id first rest)

theorem applyAll_refills (rows : Rows) (t : ScoutTable) (id : String) (values : List Value) :
    applyAll rows (refills t id values) t =
      elementRows (Codec.encodeText id) 0 values ++ (rows t).filter fun row => !hasId id row := by
  rw [refills, applyAll, applyAll_fills, apply_delete]

/-- An empty collection of a scout who is there can be filled. -/
theorem fills_allowed (child : t ∈ ScoutTable.collections) (few : values.length * 3 ≤ variableLimit)
    (parent : ∃ row ∈ rows .boyScout, hasId id row = true) (distinct : t.key.Distinct (rows t))
    (free : (rows t).filter (hasId id) = []) : AllowedAll rows (fills t id values) := by
  cases values with
  | nil => trivial
  | cons first rest =>
    have limit : variableLimit = 32766 := rfl
    have small : (first :: rest).length < 2 ^ 63 := by omega
    exact ⟨⟨few, parent, distinct_elementRows child small distinct free⟩, trivial⟩

theorem clear_allowed (rows : Rows) (child : t ∈ ScoutTable.collections) (id : String) :
    (ScoutWrite.delete t id).Allowed rows := by
  rintro rfl
  exact absurd child (by decide)

theorem refills_allowed (child : t ∈ ScoutTable.collections) (few : values.length * 3 ≤ variableLimit)
    (parent : ∃ row ∈ rows .boyScout, hasId id row = true) (distinct : t.key.Distinct (rows t)) :
    AllowedAll rows (refills t id values) := by
  have other : .boyScout ≠ t := by
    rintro rfl
    exact absurd child (by decide)
  refine ⟨clear_allowed rows child id, fills_allowed child few ?_ ?_ ?_⟩
  · rw [apply_of_ne rows other]
    exact parent
  · rw [apply_delete]
    exact List.Pairwise.sublist List.filter_sublist distinct
  · rw [apply_delete]
    exact filter_deleted id (rows t)

end Collection

section Parts
variable {rows : Rows} {part : String × ScoutTable → List ScoutWrite} {children : List (String × ScoutTable)}

theorem parts_frame {t : ScoutTable} (other : ∀ child ∈ children, t ≠ child.2)
    (only : ∀ child ∈ children, ∀ write ∈ part child, write.table = child.2) :
    applyAll rows (children.flatMap part) t = rows t := by
  refine applyAll_of_ne fun write member same => ?_
  obtain ⟨child, known, member⟩ := List.mem_flatMap.mp member
  exact other child known (same.symm.trans (only child known write member))

/-- Writes to one collection after the other come to what the writes to each of them come to. -/
theorem parts_table (apart : (children.map (·.2)).Nodup)
    (only : ∀ child ∈ children, ∀ write ∈ part child, write.table = child.2) {child : String × ScoutTable}
    (member : child ∈ children) : applyAll rows (children.flatMap part) child.2 = applyAll rows (part child) child.2 := by
  induction children generalizing rows with
  | nil => cases member
  | cons first rest ih =>
    rw [List.map_cons, List.nodup_cons] at apart
    obtain ⟨onlyFirst, onlyRest⟩ := List.forall_mem_cons.mp only
    rw [List.flatMap_cons, applyAll_append]
    rcases List.mem_cons.mp member with rfl | later
    · refine parts_frame (fun other known same => apart.1 ?_) onlyRest
      rw [same]
      exact List.mem_map_of_mem known
    · rw [ih apart.2 onlyRest later]
      refine applyAll_congr (applyAll_of_ne fun write inside same => apart.1 ?_) (part child)
      rw [← onlyFirst write inside, same]
      exact List.mem_map_of_mem later

/-- They are all let through, if those to each table are while the boy scouts and that table are as at the start. -/
theorem parts_allowed (apart : (children.map (·.2)).Nodup)
    (inside : ∀ child ∈ children, child.2 ∈ ScoutTable.collections)
    (only : ∀ child ∈ children, ∀ write ∈ part child, write.table = child.2)
    (step : ∀ child ∈ children, ∀ left : Rows, left .boyScout = rows .boyScout → left child.2 = rows child.2 →
      AllowedAll left (part child)) : AllowedAll rows (children.flatMap part) := by
  induction children generalizing rows with
  | nil => trivial
  | cons first rest ih =>
    rw [List.map_cons, List.nodup_cons] at apart
    obtain ⟨here, insideRest⟩ := List.forall_mem_cons.mp inside
    obtain ⟨onlyFirst, onlyRest⟩ := List.forall_mem_cons.mp only
    rw [List.flatMap_cons]
    refine allowedAll_append (step first List.mem_cons_self rows rfl rfl) (ih apart.2 insideRest onlyRest ?_)
    have untouched {t : ScoutTable} (other : t ≠ first.2) : applyAll rows (part first) t = rows t :=
      applyAll_of_ne fun write member same => other (same.symm.trans (onlyFirst write member))
    intro child member left boys same
    have boy : .boyScout ≠ first.2 := fun equal => absurd (equal ▸ here) (by decide)
    have different : child.2 ≠ first.2 := fun equal => apart.1 (by rw [← equal]; exact List.mem_map_of_mem member)
    exact step child (List.mem_cons_of_mem _ member) left (boys.trans (untouched boy)) (same.trans (untouched different))

end Parts

def Mapping.row {E : Type} (mapping : Mapping E) (entity : E) : Row :=
  Codec.encodeText (mapping.id entity) :: mapping.encodeColumns entity

def Mapping.subject {E : Type} (mapping : Mapping E) : Call E → String
  | .create entity | .update entity _ => mapping.id entity
  | .read id | .delete id => id

namespace Placement
variable {E : Type} {mapping : Mapping E} (placement : Placement mapping)

theorem fill_about (entity : E) (child : String × ScoutTable) :
    ∀ write ∈ placement.fill entity child, write.table = child.2 ∧ write.id = mapping.id entity := table_fills

theorem refill_about (entity : E) (mask : FieldMask) (child : String × ScoutTable) :
    ∀ write ∈ placement.refill entity mask child, write.table = child.2 ∧ write.id = mapping.id entity := by
  unfold refill
  split
  · exact table_refills
  · intro write member
    cases member

theorem table_fill (entity : E) :
    ∀ child ∈ placement.children, ∀ write ∈ placement.fill entity child, write.table = child.2 :=
  fun child _ write member => (placement.fill_about entity child write member).1

theorem table_refill (entity : E) (mask : FieldMask) :
    ∀ child ∈ placement.children, ∀ write ∈ placement.refill entity mask child, write.table = child.2 :=
  fun child _ write member => (placement.refill_about entity mask child write member).1

/-- Writes are about the subject of the call, in the tables of its kind. -/
theorem writes_about (call : Call E) : ∀ write ∈ placement.writes call,
    write.id = mapping.subject call ∧ (write.table = placement.parent ∨ write.table ∈ placement.children.map (·.2)) := by
  intro write member
  cases call with
  | create entity =>
    rcases List.mem_cons.mp member with rfl | member
    · exact ⟨rfl, .inl rfl⟩
    · obtain ⟨child, known, member⟩ := List.mem_flatMap.mp member
      obtain ⟨table, id⟩ := placement.fill_about entity child write member
      exact ⟨id, .inr (by rw [table]; exact List.mem_map_of_mem known)⟩
  | read id => cases member
  | update entity mask =>
    rcases List.mem_append.mp member with member | member
    · unfold columnWrites at member
      split at member
      · cases member
      · rw [List.mem_singleton.mp member]
        exact ⟨rfl, .inl rfl⟩
    · obtain ⟨child, known, member⟩ := List.mem_flatMap.mp member
      obtain ⟨table, id⟩ := placement.refill_about entity mask child write member
      exact ⟨id, .inr (by rw [table]; exact List.mem_map_of_mem known)⟩
  | delete id =>
    rcases List.mem_append.mp member with member | member
    · obtain ⟨child, known, rfl⟩ := List.mem_map.mp member
      exact ⟨rfl, .inr (List.mem_map_of_mem known)⟩
    · rw [List.mem_singleton.mp member]
      exact ⟨rfl, .inl rfl⟩

theorem parent_ne {child : String × ScoutTable} (member : child ∈ placement.children) : placement.parent ≠ child.2 :=
  fun same => placement.parental (by rw [same]; exact placement.inside child member)

theorem applyAll_elsewhere (rows : Rows) (call : Call E) {t : ScoutTable} (parent : t ≠ placement.parent)
    (child : t ∉ placement.children.map (·.2)) : applyAll rows (placement.writes call) t = rows t := by
  refine applyAll_of_ne fun write member equal => ?_
  rcases (placement.writes_about call write member).2 with own | other
  · exact parent (equal.symm.trans own)
  · rw [equal] at other
    exact child other

variable {child : String × ScoutTable}

section Create
variable (rows : Rows) (entity : E)

theorem applyAll_create_parent :
    applyAll rows (placement.writes (.create entity)) placement.parent = mapping.row entity :: rows placement.parent := by
  let first := ScoutWrite.insert placement.parent (mapping.id entity) (mapping.encodeColumns entity)
  have kept : applyAll (first.apply rows) (placement.children.flatMap (placement.fill entity)) placement.parent =
      first.apply rows placement.parent :=
    parts_frame (fun _ member => placement.parent_ne member) (placement.table_fill entity)
  exact kept.trans (apply_table rows first)

theorem applyAll_create_child (member : child ∈ placement.children) :
    applyAll rows (placement.writes (.create entity)) child.2 =
      elementRows (Codec.encodeText (mapping.id entity)) 0 (placement.elements entity child.2) ++ rows child.2 := by
  let first := ScoutWrite.insert placement.parent (mapping.id entity) (mapping.encodeColumns entity)
  have filled : applyAll (first.apply rows) (placement.children.flatMap (placement.fill entity)) child.2 =
      applyAll (first.apply rows) (placement.fill entity child) child.2 :=
    parts_table placement.apart (placement.table_fill entity) member
  have kept : first.apply rows child.2 = rows child.2 := apply_of_ne rows (placement.parent_ne member).symm
  rw [fill, applyAll_fills, kept] at filled
  exact filled

/-- An id of which there is nothing yet can be created and filled, as far as its elements are few enough. -/
theorem inserted_allowed {rows : Rows} {entity : E} (present : mapping.id entity ≠ "")
    (distinct : ∀ t : ScoutTable, t.key.Distinct (rows t))
    (absent : (rows placement.parent).filter (hasId (mapping.id entity)) = [])
    (free : ∀ child ∈ placement.children, (rows child.2).filter (hasId (mapping.id entity)) = [])
    {children : List (String × ScoutTable)} (some : children.Sublist placement.children)
    (few : ∀ child ∈ children, (placement.elements entity child.2).length * 3 ≤ variableLimit) :
    AllowedAll rows (.insert placement.parent (mapping.id entity) (mapping.encodeColumns entity) ::
      children.flatMap (placement.fill entity)) := by
  let first := ScoutWrite.insert placement.parent (mapping.id entity) (mapping.encodeColumns entity)
  have own : first.apply rows placement.parent = mapping.row entity :: rows placement.parent := apply_table rows first
  have new : first.Allowed rows :=
    ⟨present, fun row member => Bool.eq_false_iff.mpr (List.filter_eq_nil_iff.mp absent row member)⟩
  have known := some.subset
  refine ⟨new, parts_allowed ((some.map _).nodup placement.apart) (fun child member => placement.inside child (known member))
    (fun child member => placement.table_fill entity child (known member)) ?_⟩
  intro child member left boys same
  have kept : first.apply rows child.2 = rows child.2 := apply_of_ne rows (placement.parent_ne (known member)).symm
  rw [kept] at same
  refine fills_allowed (placement.inside child (known member)) (few child member) ?_ ?_ ?_
  · rw [boys, ← placement.owner child (known member), own]
    exact ⟨_, List.mem_cons_self, hasId_row present _⟩
  · rw [same]
    exact distinct child.2
  · rw [same]
    exact free child (known member)

theorem create_allowed {rows : Rows} {entity : E} (present : mapping.id entity ≠ "")
    (distinct : ∀ t : ScoutTable, t.key.Distinct (rows t)) (few : placement.Few entity)
    (absent : (rows placement.parent).filter (hasId (mapping.id entity)) = [])
    (free : ∀ child ∈ placement.children, (rows child.2).filter (hasId (mapping.id entity)) = []) :
    AllowedAll rows (placement.writes (.create entity)) :=
  placement.inserted_allowed present distinct absent free (List.Sublist.refl _) few

end Create

section Update
variable (rows : Rows) (entity : E) (mask : FieldMask)

theorem applyAll_columns_parent : applyAll rows (placement.columnWrites entity mask) placement.parent =
    if mapping.schema.columns.isEmpty then rows placement.parent
    else (rows placement.parent).map (updated (mapping.id entity) (mapping.choices entity mask)) := by
  unfold columnWrites
  split
  · rfl
  · exact apply_table rows (.update placement.parent _ _)

theorem applyAll_columns {t : ScoutTable} (other : t ≠ placement.parent) :
    applyAll rows (placement.columnWrites entity mask) t = rows t := by
  unfold columnWrites
  split
  · rfl
  · exact apply_of_ne rows other

theorem applyAll_update_parent : applyAll rows (placement.writes (.update entity mask)) placement.parent =
    if mapping.schema.columns.isEmpty then rows placement.parent
    else (rows placement.parent).map (updated (mapping.id entity) (mapping.choices entity mask)) := by
  rw [writes, applyAll_append, parts_frame (fun _ member => placement.parent_ne member) (placement.table_refill _ _),
    applyAll_columns_parent]

theorem applyAll_update_child (member : child ∈ placement.children) :
    applyAll rows (placement.writes (.update entity mask)) child.2 =
      if mask.included child.1 then
        elementRows (Codec.encodeText (mapping.id entity)) 0 (placement.elements entity child.2) ++
          (rows child.2).filter fun row => !hasId (mapping.id entity) row
      else rows child.2 := by
  rw [writes, applyAll_append, parts_table placement.apart (placement.table_refill _ _) member, refill]
  have kept := placement.applyAll_columns rows entity mask (placement.parent_ne member).symm
  split
  · rw [applyAll_refills, kept]
  · exact kept

/-- Whoever is there can be updated, as far as the new elements are few enough. -/
theorem replaced_allowed {rows : Rows} {entity : E} (mask : FieldMask)
    (stored : ∃ row ∈ rows placement.parent, hasId (mapping.id entity) row = true)
    (distinct : ∀ t : ScoutTable, t.key.Distinct (rows t)) {children : List (String × ScoutTable)}
    (some : children.Sublist placement.children)
    (few : ∀ child ∈ children, mask.included child.1 = true →
      (placement.elements entity child.2).length * 3 ≤ variableLimit) :
    AllowedAll rows (placement.columnWrites entity mask ++ children.flatMap (placement.refill entity mask)) := by
  have still : ∃ row ∈ applyAll rows (placement.columnWrites entity mask) placement.parent,
      hasId (mapping.id entity) row = true := by
    obtain ⟨row, member, has⟩ := stored
    rw [applyAll_columns_parent]
    split
    · exact ⟨row, member, has⟩
    · exact ⟨_, List.mem_map_of_mem member, by rw [hasId_updated, has]⟩
  have known := some.subset
  refine allowedAll_append ?_ (parts_allowed ((some.map _).nodup placement.apart)
    (fun child member => placement.inside child (known member))
    (fun child member => placement.table_refill entity mask child (known member)) ?_)
  · unfold columnWrites
    split
    · trivial
    · exact ⟨trivial, trivial⟩
  · intro child member left boys same
    rw [placement.applyAll_columns rows entity mask (placement.parent_ne (known member)).symm] at same
    unfold refill
    split
    next included =>
      refine refills_allowed (placement.inside child (known member)) (few child member included) ?_
        (by rw [same]; exact distinct child.2)
      rw [boys, ← placement.owner child (known member)]
      exact still
    next => trivial

theorem update_allowed {rows : Rows} {entity : E} (mask : FieldMask)
    (stored : ∃ row ∈ rows placement.parent, hasId (mapping.id entity) row = true)
    (distinct : ∀ t : ScoutTable, t.key.Distinct (rows t)) (few : placement.Few entity) :
    AllowedAll rows (placement.writes (.update entity mask)) :=
  placement.replaced_allowed mask stored distinct (List.Sublist.refl _) fun child member _ => few child member

end Update

section Delete
variable (rows : Rows) (id : String)

theorem writes_delete : placement.writes (.delete id) =
    placement.children.flatMap (fun child => [.delete child.2 id]) ++ [.delete placement.parent id] := by
  rw [writes, List.map_eq_flatMap]

theorem table_delete : ∀ child ∈ placement.children, ∀ write ∈ [ScoutWrite.delete child.2 id], write.table = child.2 := by
  intro child _ write member
  rw [List.mem_singleton.mp member]
  rfl

theorem applyAll_delete_parent : applyAll rows (placement.writes (.delete id)) placement.parent =
    (rows placement.parent).filter fun row => !hasId id row := by
  rw [writes_delete, applyAll_append, applyAll, applyAll, apply_delete,
    parts_frame (fun _ member => placement.parent_ne member) (placement.table_delete id)]

theorem applyAll_delete_child (member : child ∈ placement.children) :
    applyAll rows (placement.writes (.delete id)) child.2 = (rows child.2).filter fun row => !hasId id row := by
  rw [writes_delete, applyAll_append, applyAll, applyAll, apply_of_ne _ (placement.parent_ne member).symm,
    parts_table placement.apart (placement.table_delete id) member, applyAll, applyAll, apply_delete]

/-- Elements go before their parent, so nothing stops a delete. -/
theorem delete_allowed : AllowedAll rows (placement.writes (.delete id)) := by
  rw [writes_delete]
  refine allowedAll_append ?_ ⟨?_, trivial⟩
  · exact parts_allowed placement.apart placement.inside (placement.table_delete id) fun child member left _ _ =>
      ⟨clear_allowed left (placement.inside child member) id, trivial⟩
  · intro boy _ child inside row member
    obtain ⟨field, known, rfl⟩ := List.mem_map.mp (placement.whole boy inside)
    rw [parts_table placement.apart (placement.table_delete id) known, applyAll, applyAll, apply_delete] at member
    simpa using (List.mem_filter.mp member).2

end Delete
end Placement
end EntityStore
