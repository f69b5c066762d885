import EntityStore.Proofs.Scouts.Effects

/-! What belongs to an id. Whether a write is let through, how it is refused and what it makes of the rows of its id
depends on the rows of that id alone, and the rows of all others stay as they are. -/

namespace EntityStore
open Engine ScoutWrite

/-- In some tables the rows with an id are the same, in whatever order. -/
def Alike (tables : List ScoutTable) (id : String) (rows others : Rows) : Prop :=
  ∀ t ∈ tables, ((rows t).filter (hasId id)).Perm ((others t).filter (hasId id))

theorem Alike.subset {tables fewer : List ScoutTable} {id : String} {rows others : Rows}
    (alike : Alike tables id rows others) (inside : fewer ⊆ tables) : Alike fewer id rows others :=
  fun t member => alike t (inside member)

section Rows
variable {id : String} {some others : List Row}

theorem present_congr (same : (some.filter (hasId id)).Perm (others.filter (hasId id))) :
    (∃ row ∈ some, hasId id row = true) ↔ ∃ row ∈ others, hasId id row = true := by
  simp only [← List.mem_filter, same.mem_iff]

theorem absent_congr (same : (some.filter (hasId id)).Perm (others.filter (hasId id))) :
    (∀ row ∈ some, hasId id row = false) ↔ ∀ row ∈ others, hasId id row = false := by
  have present := not_congr (present_congr same)
  simpa only [not_exists, not_and, Bool.not_eq_true] using present

theorem distinct_append {t : ScoutTable} (child : t ∈ ScoutTable.collections) (distinct : t.key.Distinct others)
    (values : List Value) :
    t.key.Distinct (elementRows (Codec.encodeText id) 0 values ++ others) ↔
      t.key.Distinct (elementRows (Codec.encodeText id) 0 values) ∧
        ∀ row ∈ elementRows (Codec.encodeText id) 0 values, ∀ other ∈ others.filter (hasId id),
          ¬ t.key.Shared row other := by
  have meets : ∀ row ∈ elementRows (Codec.encodeText id) 0 values, ∀ other, t.key.Shared row other →
      hasId id other = true := by
    intro row member other shared
    obtain ⟨place, value, -, rfl⟩ := mem_elementRows member
    rw [ScoutTable.key_collection child] at shared
    have same := shared 0 (by simp)
    rw [Value.same_comm] at same
    exact same
  refine List.pairwise_append.trans ⟨fun ⟨own, _, apart⟩ => ⟨own, fun row member other inside => ?_⟩,
    fun ⟨own, apart⟩ => ⟨own, distinct, fun row member other inside shared => ?_⟩⟩
  · exact apart row member other (List.mem_filter.mp inside).1
  · exact apart row member other (List.mem_filter.mpr ⟨inside, meets row member other shared⟩) shared

theorem distinct_congr {t : ScoutTable} (child : t ∈ ScoutTable.collections)
    (same : (some.filter (hasId id)).Perm (others.filter (hasId id))) (distinct : t.key.Distinct some)
    (apart : t.key.Distinct others) (values : List Value) :
    t.key.Distinct (elementRows (Codec.encodeText id) 0 values ++ some) ↔
      t.key.Distinct (elementRows (Codec.encodeText id) 0 values ++ others) := by
  rw [distinct_append child distinct, distinct_append child apart]
  simp only [same.mem_iff]

end Rows

namespace ScoutWrite
variable {write : ScoutWrite} {rows others : Rows}

/-- The tables that decide what becomes of a write. -/
def reach : ScoutWrite → List ScoutTable
  | .insert t _ _ | .update t _ _ => [t]
  | .fill t _ _ _ => [t, .boyScout]
  | .delete t _ => t :: if t = .boyScout then ScoutTable.collections else []

theorem table_mem_reach (write : ScoutWrite) : write.table ∈ write.reach := by cases write <;> exact List.mem_cons_self

/-- A write is let through or refused by the rows of its id. -/
theorem allowed_congr (proper : write.Proper) (alike : Alike write.reach write.id rows others)
    (distinct : write.table.key.Distinct (rows write.table)) (apart : write.table.key.Distinct (others write.table)) :
    (write.Allowed rows ↔ write.Allowed others) ∧ write.refusal rows = write.refusal others := by
  have own := alike write.table write.table_mem_reach
  cases write with
  | insert t id values => exact ⟨and_congr Iff.rfl (absent_congr own), rfl⟩
  | fill t id first rest =>
    have parent := present_congr (alike .boyScout (List.mem_cons_of_mem _ List.mem_cons_self))
    have free := distinct_congr proper.1 own distinct apart (first :: rest)
    refine ⟨and_congr Iff.rfl (and_congr parent free), ?_⟩
    dsimp only [refusal, table, ScoutWrite.id] at free ⊢
    simp only [free]
  | update t id choices => exact ⟨Iff.rfl, rfl⟩
  | delete t id =>
    refine ⟨forall_congr' fun boy => imp_congr (present_congr own) ?_, rfl⟩
    refine forall_congr' fun child => forall_congr' fun inside => absent_congr (alike child ?_)
    rw [reach, if_pos boy]
    exact List.mem_cons_of_mem _ inside

theorem change_alike (write : ScoutWrite) {first second : List Row}
    (same : (first.filter (hasId write.id)).Perm (second.filter (hasId write.id))) :
    ((write.change first).filter (hasId write.id)).Perm ((write.change second).filter (hasId write.id)) := by
  cases write with
  | insert t id values =>
    change ((_ :: first).filter (hasId id)).Perm ((_ :: second).filter (hasId id))
    rw [List.filter_cons, List.filter_cons]
    split
    · exact same.cons _
    · exact same
  | fill t id value rest =>
    change ((_ ++ first).filter (hasId id)).Perm ((_ ++ second).filter (hasId id))
    rw [List.filter_append, List.filter_append]
    exact same.append_left _
  | update t id choices =>
    change ((first.map (updated id choices)).filter (hasId id)).Perm ((second.map (updated id choices)).filter (hasId id))
    rw [filter_updated, filter_updated]
    exact same.map _
  | delete t id =>
    change ((first.filter fun row => !hasId id row).filter (hasId id)).Perm
      ((second.filter fun row => !hasId id row).filter (hasId id))
    rw [filter_deleted, filter_deleted]

theorem apply_alike {tables : List ScoutTable} (alike : Alike tables write.id rows others) :
    Alike tables write.id (write.apply rows) (write.apply others) := by
  intro t member
  by_cases own : t = write.table
  · subst own
    rw [apply_table, apply_table]
    exact write.change_alike (alike _ member)
  · rw [apply_of_ne rows own, apply_of_ne others own]
    exact alike t member

/-- The rows that do not have its id are those that a write leaves alone. -/
theorem filter_rest (allowed : write.Allowed rows) (first : List Row) :
    ((write.change first).filter fun row => !hasId write.id row) = first.filter fun row => !hasId write.id row := by
  cases write with
  | insert t id values =>
    exact List.filter_cons_of_neg (by simp [ScoutWrite.id, hasId_row allowed.1])
  | fill t id value rest =>
    have present := ne_of_stored allowed.2.1
    change (_ ++ first).filter _ = first.filter _
    rw [List.filter_append, List.filter_eq_nil_iff.mpr, List.nil_append]
    intro row member
    simp [ScoutWrite.id, hasId_elementRows present row member]
  | update t id choices =>
    change (first.map (updated id choices)).filter _ = first.filter _
    have kept : ((fun row => !hasId id row) ∘ updated id choices) = fun row => !hasId id row :=
      funext fun row => congrArg not (hasId_updated choices row)
    rw [List.filter_map]
    change ((first.filter ((fun row => !hasId id row) ∘ updated id choices)).map _) = _
    rw [kept]
    refine (List.map_congr_left fun row member => ?_).trans (List.map_id _)
    exact if_neg (by simpa using (List.mem_filter.mp member).2)
  | delete t id =>
    change (first.filter fun row => !hasId id row).filter _ = first.filter _
    rw [List.filter_filter]
    exact List.filter_congr fun row _ => Bool.and_self _

theorem rest_applyAll {writes : List ScoutWrite} {id : String} (about : ∀ write ∈ writes, write.id = id)
    (allowed : AllowedAll rows writes) (t : ScoutTable) :
    ((applyAll rows writes t).filter fun row => !hasId id row) = (rows t).filter fun row => !hasId id row := by
  induction writes generalizing rows with
  | nil => rfl
  | cons write rest ih =>
    obtain ⟨here, later⟩ := List.forall_mem_cons.mp about
    rw [applyAll, ih later allowed.2]
    by_cases own : t = write.table
    · subst own
      rw [apply_table, ← here, filter_rest allowed.1]
    · rw [apply_of_ne rows own]

end ScoutWrite

namespace Placement
variable {E : Type} {mapping : Mapping E} (placement : Placement mapping)

def tables : List ScoutTable := placement.parent :: placement.children.map (·.2)

/-- The rows of an id. An id is what the text of a row's id is, letter for letter, and an empty one has no rows. -/
def Owns (id : String) (t : ScoutTable) (row : Row) : Prop := t ∈ placement.tables ∧ id ≠ "" ∧ cell row 0 = .text id

theorem owns_iff {id : String} {t : ScoutTable} {row : Row} :
    placement.Owns id t row ↔ t ∈ placement.tables ∧ hasId id row = true := by
  rw [hasId_iff]
  exact Iff.rfl

theorem reach_writes (call : Call E) : ∀ write ∈ placement.writes call, write.reach ⊆ placement.tables := by
  have parent : placement.parent ∈ placement.tables := List.mem_cons_self
  have own {child : String × ScoutTable} (known : child ∈ placement.children) : child.2 ∈ placement.tables :=
    List.mem_cons_of_mem _ (List.mem_map_of_mem known)
  intro write member
  cases placement.plans call write member with
  | insert entity => exact List.cons_subset.mpr ⟨parent, List.nil_subset _⟩
  | fill entity known same =>
    rw [placement.owner _ known] at parent
    exact List.cons_subset.mpr ⟨own known, List.cons_subset.mpr ⟨parent, List.nil_subset _⟩⟩
  | update entity mask => exact List.cons_subset.mpr ⟨parent, List.nil_subset _⟩
  | @clear child known id =>
    have other : child.2 ≠ .boyScout := by
      rw [← placement.owner _ known]
      exact (placement.parent_ne known).symm
    rw [reach, if_neg other]
    exact List.cons_subset.mpr ⟨own known, List.nil_subset _⟩
  | delete id =>
    refine List.cons_subset.mpr ⟨parent, ?_⟩
    split
    next boy => exact fun t inside => List.mem_cons_of_mem _ (placement.whole boy inside)
    next => exact List.nil_subset _

end Placement

theorem kinds_apart : ∀ t ∈ BoyScout.placement.tables, t ∉ GirlScout.placement.tables := by decide

end EntityStore
