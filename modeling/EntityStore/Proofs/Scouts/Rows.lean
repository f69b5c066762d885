import EntityStore.Proofs.Scouts.Holding
import EntityStore.Repository

/-! Rows as the mapper writes them: those of the elements of a collection, those that an update changes, and when the
columns of their table take them. -/

namespace EntityStore
open Engine

/-- The rows that a collection's elements are stored as, ordinals counting from the first. -/
def elementRows (id : Value) (ordinal : Nat) : List Value → List Row
  | [] => []
  | value :: rest => [id, .integer (Int64.ofInt ordinal), value] :: elementRows id (ordinal + 1) rest

theorem flatten_elementRows (id : Value) (ordinal : Nat) (values : List Value) :
    (elementRows id ordinal values).flatten = Mapping.elementParameters id ordinal values := by
  induction values generalizing ordinal with
  | nil => rfl
  | cons value rest ih => rw [elementRows, List.flatten_cons, ih]; rfl

theorem length_elementRows (id : Value) (ordinal : Nat) (values : List Value) :
    (elementRows id ordinal values).length = values.length := by
  induction values generalizing ordinal with
  | nil => rfl
  | cons value rest ih => rw [elementRows, List.length_cons, ih, List.length_cons]

theorem mem_elementRows {id : Value} {ordinal : Nat} {values : List Value} {row : Row}
    (member : row ∈ elementRows id ordinal values) :
    ∃ place : Nat, ∃ value ∈ values, row = [id, .integer (Int64.ofInt place), value] := by
  induction values generalizing ordinal with
  | nil => cases member
  | cons value rest ih =>
    rcases List.mem_cons.mp member with rfl | member
    · exact ⟨ordinal, value, List.mem_cons_self, rfl⟩
    · obtain ⟨place, other, inside, same⟩ := ih member
      exact ⟨place, other, List.mem_cons_of_mem _ inside, same⟩

theorem exists_elementRows (id : Value) (ordinal : Nat) {values : List Value} {value : Value} (member : value ∈ values) :
    ∃ place : Nat, [id, .integer (Int64.ofInt place), value] ∈ elementRows id ordinal values := by
  induction values generalizing ordinal with
  | nil => cases member
  | cons first rest ih =>
    rcases List.mem_cons.mp member with rfl | member
    · exact ⟨ordinal, List.mem_cons_self⟩
    · obtain ⟨place, inside⟩ := ih (ordinal + 1) member
      exact ⟨place, List.mem_cons_of_mem _ inside⟩

/-- What elements are stored as is bound as it is. -/
theorem plain_elementRows {values : List Value} (plain : ∀ value ∈ values, value.parameter = value) (id : String)
    (ordinal : Nat) : ∀ value ∈ (elementRows (Codec.encodeText id) ordinal values).flatten, value.parameter = value := by
  intro value member
  obtain ⟨row, inside, found⟩ := List.mem_flatten.mp member
  obtain ⟨place, element, known, rfl⟩ := mem_elementRows inside
  have kept := plain element known
  simp only [List.mem_cons, List.not_mem_nil, or_false] at found
  rcases found with rfl | rfl | rfl
  · exact encodeText_parameter id
  · rfl
  · exact kept

def overwrite (values : List (Option Value)) : Row → Row
  | [] => []
  | id :: old => id :: values.zipWith Option.getD old

def updated (id : String) (choices : List Choice) (row : Row) : Row :=
  if hasId id row then overwrite (Choice.values choices) row else row

theorem cell_overwrite (values : List (Option Value)) (row : Row) : cell (overwrite values row) 0 = cell row 0 := by
  cases row <;> rfl

theorem cell_updated (id : String) (choices : List Choice) (row : Row) :
    cell (updated id choices row) 0 = cell row 0 := by
  unfold updated
  split
  · exact cell_overwrite _ row
  · rfl

theorem forall₂_overwrite {choices : List Choice} {relates : Engine.Column → Value → Prop}
    {columns : List Engine.Column} {old : List Value}
    (chosen : List.Forall₂ relates columns (choices.map (·.2))) (held : List.Forall₂ relates columns old) :
    List.Forall₂ relates columns ((Choice.values choices).zipWith Option.getD old) := by
  induction held generalizing choices with
  | nil => rw [List.zipWith_nil_right]; exact .nil
  | cons first rest ih =>
    cases choices with
    | nil => cases chosen
    | cons choice choices =>
      obtain ⟨here, later⟩ := List.forall₂_cons.mp chosen
      refine .cons ?_ (ih later)
      rcases choice with ⟨_ | _, value⟩
      · exact first
      · exact here

theorem filter_id {others : List Row} (distinct : Key.Distinct ⟨[0], true⟩ others) (id : String) :
    others.filter (hasId id) = [] ∨ ∃ row, others.filter (hasId id) = [row] := by
  have apart : Key.Distinct ⟨[0], true⟩ (others.filter (hasId id)) :=
    List.Pairwise.sublist List.filter_sublist distinct
  have all : ∀ row ∈ others.filter (hasId id), cell row 0 = .text id :=
    fun row member => (hasId_iff.mp (List.mem_filter.mp member).2).2
  generalize others.filter (hasId id) = chosen at apart all
  match chosen, apart, all with
  | [], _, _ => exact .inl rfl
  | [row], _, _ => exact .inr ⟨row, rfl⟩
  | first :: second :: rest, apart, all =>
    refine absurd ?_ ((List.pairwise_cons.mp apart).1 second List.mem_cons_self)
    intro index member
    rw [List.mem_singleton.mp member, all first (by simp), all second (by simp), Value.same_text]

namespace ScoutTable
variable {t : ScoutTable} {id : String}

theorem key_parent (parent : t ∉ collections) : t.key = ⟨[0], true⟩ := by
  cases t <;> first | rfl | exact absurd (by decide) parent

theorem key_collection (child : t ∈ collections) : t.key = ⟨[0, 1], true⟩ := by
  cases t <;> first | rfl | exact absurd child (by decide)

theorem columns_length (child : t ∈ collections) : t.columns.length = 3 := by
  cases t <;> first | rfl | exact absurd child (by decide)

theorem columns_collection (child : t ∈ collections) : t.columns =
    Migration.key "id" :: { name := "ordinality", type := "INTEGER", required := true } :: t.columns.drop 2 := by
  cases t <;> first | rfl | exact absurd child (by decide)

theorem columnNames_collection (child : t ∈ collections) : t.columnNames = Collection.columnNames := by
  cases t <;> first | rfl | exact absurd child (by decide)

theorem holds_id {value : Value} (textual : Affinity.text.apply value = value) (present : value ≠ .null) :
    (Migration.key "id").Holds value := by
  refine ⟨?_, fun _ => present⟩
  rw [key_affinity]
  exact textual

theorem fits_parent {values : List Value} (present : id ≠ "") (fits : Fits t.columns.tail values) :
    Fits t.columns (Codec.encodeText id :: values) := by
  rw [encodeText_of_ne present, t.columns_eq]
  exact .cons (holds_id rfl (by simp)) fits

theorem ordinality_affinity : ({ name := "ordinality", type := "INTEGER", required := true : Engine.Column}).affinity =
    .integer := by decide +kernel

theorem fits_collection (child : t ∈ collections) {place : Nat} {value : Value} (present : id ≠ "")
    (fits : Fits (t.columns.drop 2) [value]) :
    Fits t.columns [Codec.encodeText id, .integer (Int64.ofInt place), value] := by
  rw [encodeText_of_ne present, columns_collection child]
  refine .cons (holds_id rfl (by simp)) (.cons ⟨?_, by simp⟩ fits)
  rw [ordinality_affinity]
  rfl

theorem forall₂_updated {choices : List Choice} {relates : Engine.Column → Value → Prop}
    (chosen : List.Forall₂ relates t.columns.tail (choices.map (·.2))) {row : Row}
    (held : List.Forall₂ relates t.columns row) : List.Forall₂ relates t.columns (updated id choices row) := by
  unfold updated
  split
  · rw [t.columns_eq] at held ⊢
    cases held with
    | cons first rest => exact .cons first (forall₂_overwrite chosen rest)
  · exact held

/-- An id that is stored has one row. -/
theorem single_id {connection : Connection} {rows : Rows} (parent : t ∉ collections) (holds : Holds connection rows)
    (stored : ∃ row ∈ rows t, hasId id row = true) : ∃ row, (rows t).filter (hasId id) = [row] := by
  obtain ⟨row, member, has⟩ := stored
  refine (filter_id (key_parent parent ▸ holds.distinct t) id).resolve_left fun none => ?_
  exact List.filter_eq_nil_iff.mp none row member has

/-- A row whose id is NULL is refused for its id. -/
theorem missing_id (contents : Contents) {row : Row} (null : cell row 0 = .null) (wide : row ≠ []) :
    (contents.table t).missing? ((contents.table t).convert row) = some (Migration.key "id") := by
  have columns : (contents.table t).columns = Migration.key "id" :: t.columns.tail := t.columns_eq
  cases row with
  | nil => exact absurd rfl wide
  | cons value rest =>
    obtain rfl : value = .null := null
    simp [Relation.convert, Relation.missing?, columns, Affinity.apply, Migration.key]

end ScoutTable

end EntityStore
