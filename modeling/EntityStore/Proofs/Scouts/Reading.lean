import EntityStore.Proofs.Engine.Ordering
import EntityStore.Proofs.Scouts.Writing

/-! What the statements of the mapper that read yield from a migrated database: the parent row of an id, and the
elements of a collection in the order of their ordinals. -/

namespace EntityStore
open Engine

theorem Engine.Relation.sort_perm (places : List Place) (entries : List Entry) :
    (Relation.sort places entries).Perm entries := by
  unfold Relation.sort
  split
  · exact .refl _
  · exact List.mergeSort_perm _ _

/-- A scan meets the rows that it is to choose, each of them once. -/
theorem Engine.Relation.scan_perm (relation : Relation) (reading : Reading) :
    (relation.scan reading).Perm
      (relation.entries.filter (reading.condition.equals relation reading.value)) := by
  unfold Relation.scan
  refine (sort_perm _ _).trans (.trans ?_ (List.reverse_perm _))
  split
  · exact sort_perm _ _
  · exact .refl _

/-- The ordinal of a row of a collection. -/
def ordinal (row : Row) : Int :=
  match cell row 1 with
  | .integer n => n.toInt
  | _ => 0

theorem ordinal_row {id value : Value} {place : Nat} (small : place < 2 ^ 63) :
    ordinal [id, .integer (Int64.ofInt place), value] = place := by
  simp only [ordinal, cell]
  exact Int64.toInt_ofInt_of_le (by omega) (by omega)

theorem elementRows_rising (id : Value) {values : List Value} (start : Nat) (small : start + values.length < 2 ^ 63) :
    (elementRows id start values).Pairwise (fun a b => ordinal a < ordinal b) ∧
      ∀ row ∈ elementRows id start values, (start : Int) ≤ ordinal row := by
  induction values generalizing start with
  | nil => exact ⟨.nil, fun _ member => absurd member List.not_mem_nil⟩
  | cons value rest ih =>
    rw [List.length_cons] at small
    obtain ⟨later, least⟩ := ih (start + 1) (by omega)
    have here : ordinal [id, .integer (Int64.ofInt start), value] = start := ordinal_row (by omega)
    refine ⟨List.pairwise_cons.mpr ⟨fun row member => ?_, later⟩, fun row member => ?_⟩
    · have above := least row member
      omega
    · rcases List.mem_cons.mp member with rfl | member
      · omega
      · have above := least row member
        omega

/-- The rows of a collection's elements in the order of their ordinals are those rows as they were numbered. -/
theorem eq_elementRows {others : List Row} {id : Value} {values : List Value} (small : values.length < 2 ^ 63)
    (same : others.Perm (elementRows id 0 values)) (sorted : others.Pairwise fun a b => ordinal a ≤ ordinal b) :
    others = elementRows id 0 values := by
  obtain ⟨strict, -⟩ := elementRows_rising id 0 (by omega : 0 + values.length < 2 ^ 63)
  have loose : (elementRows id 0 values).Pairwise fun a b => ordinal a ≤ ordinal b :=
    strict.imp fun below => Int.le_of_lt below
  refine same.eq_of_pairwise (fun a b here there below above => ?_) sorted loose
  have distinct : ((elementRows id 0 values).map ordinal).Nodup :=
    List.pairwise_map.mpr (strict.imp fun less => Int.ne_of_lt less)
  exact List.inj_on_of_nodup_map distinct (same.mem_iff.mp here) there (Int.le_antisymm below above)

namespace Holds
variable {connection : Connection} {rows : Rows} {t : ScoutTable}

theorem query_eq (holds : Holds connection rows) {statement : Statement} (id : String)
    (names : statement.names ⊆ t.name :: t.columnNames) (single : statement.arity = 1)
    (found : ∀ contents : Contents, contents.database.target true statement [Codec.encodeText id] =
      .ok (.reads (contents.table t).toRelation)) :
    ∃ contents : Contents, (∀ u, Stores u.columns u.key (contents u) (rows u)) ∧
      connection.query statement [Codec.encodeText id] =
        (.ok (Database.read (contents.table t).toRelation statement [Codec.encodeText id]), connection) := by
  obtain ⟨contents, same, stores⟩ := holds.stored
  have worded := Holds.worded t names (by rw [single]; decide)
  have intact : (contents.table t).toRelation.intact = true := by cases t <;> rfl
  have bound : [Codec.encodeText id].map Value.parameter = [Codec.encodeText id] := by
    rw [List.map_singleton, encodeText_parameter]
  have counted : [Codec.encodeText id].length = statement.arity := single.symm
  have ran := Connection.query_eq holds.steady worded (by rw [same, bound]; exact found contents) counted intact
  rw [bound] at ran
  exact ⟨contents, stores, ran⟩

theorem scan_id {contents : Contents} (stores : Stores t.columns t.key (contents t) (rows t)) (id : String)
    (outputs order : List Operand) :
    (((contents.table t).scan ⟨.ofName (contents.table t).toRelation "id", Codec.encodeText id, outputs, order⟩).map
      (·.values)).Perm ((rows t).filter (hasId id)) := by
  have chosen : (Operand.ofName (contents.table t).toRelation "id").equals (contents.table t).toRelation
      (Codec.encodeText id) = fun entry => hasId id entry.values := funext (ScoutTable.equals_id id)
  have scanned := (Relation.scan_perm (contents.table t).toRelation
    ⟨.ofName (contents.table t).toRelation "id", Codec.encodeText id, outputs, order⟩).map (·.values)
  dsimp only at scanned
  rw [chosen] at scanned
  exact scanned.trans (stores.filter (hasId id)).same

theorem query_parent (holds : Holds connection rows) (parent : t ∉ ScoutTable.collections) (id : String) :
    connection.query (.select t.name t.columnNames "id" none) [Codec.encodeText id] =
      (.ok ((rows t).filter (hasId id)), connection) := by
  have names : (Statement.select t.name t.columnNames "id" none).names ⊆ t.name :: t.columnNames := by
    refine List.cons_subset.mpr ⟨List.mem_cons_self, List.cons_subset.mpr ⟨List.mem_cons_of_mem _ t.id_mem, ?_⟩⟩
    rw [Option.toList_none, List.append_nil]
    exact List.subset_cons_self _ _
  obtain ⟨contents, stores, ran⟩ := holds.query_eq id names rfl fun contents => ScoutTable.target_select _ _
  rw [ran]
  refine congrArg (fun found => (Except.ok found, connection)) ?_
  have listed : t.columnNames.map (Operand.ofName (contents.table t).toRelation) =
      (List.range' 0 t.columns.length).map fun index => .stored (.column index) := by
    have wide : t.columnNames.length = t.columns.length := List.length_map _
    rw [← wide]
    exact Relation.Lists.operands t.lists
  have scanned := scan_id (stores t) id (t.columnNames.map (Operand.ofName (contents.table t).toRelation)) []
  change ((contents.table t).scan _).map _ = _
  have whole : ∀ entry ∈ (contents.table t).scan ⟨.ofName (contents.table t).toRelation "id", Codec.encodeText id,
      t.columnNames.map (Operand.ofName (contents.table t).toRelation), []⟩,
      (t.columnNames.map (Operand.ofName (contents.table t).toRelation)).map (·.value entry) = entry.values := by
    intro entry member
    have inside := List.mem_filter.mp (scanned.mem_iff.mp (List.mem_map_of_mem member))
    have wide := List.Forall₂.length_eq (holds.fits _ inside.1)
    rw [listed, List.map_map, wide]
    exact map_cell entry.values
  refine (List.map_congr_left whole).trans ?_
  rcases filter_id (by rw [← ScoutTable.key_parent parent]; exact holds.distinct t) id with none | ⟨row, one⟩
  · rw [none] at scanned ⊢
    exact List.perm_nil.mp scanned
  · rw [one] at scanned ⊢
    exact List.perm_singleton.mp scanned

theorem query_probe (holds : Holds connection rows) (t : ScoutTable) (id : String) :
    connection.query (.probe t.name "id") [Codec.encodeText id] =
      (.ok (((rows t).filter (hasId id)).map fun _ => [.null]), connection) := by
  have names : (Statement.probe t.name "id").names ⊆ t.name :: t.columnNames :=
    List.cons_subset.mpr ⟨List.mem_cons_self, List.cons_subset.mpr
      ⟨List.mem_cons_of_mem _ t.id_mem, List.nil_subset _⟩⟩
  obtain ⟨contents, stores, ran⟩ := holds.query_eq id names rfl fun contents => ScoutTable.target_probe
  rw [ran]
  refine congrArg (fun found => (Except.ok found, connection)) ?_
  have count := (scan_id (stores t) id [] []).length_eq
  rw [List.length_map] at count
  change ((contents.table t).scan ⟨.ofName (contents.table t).toRelation "id", Codec.encodeText id, [], []⟩).map
    (fun _ => [Value.null]) = _
  rw [List.map_const', List.map_const', count]

theorem query_ordered (holds : Holds connection rows) (child : t ∈ ScoutTable.collections) (id : String) :
    ∃ sorted : List Row, sorted.Perm ((rows t).filter (hasId id)) ∧
      sorted.Pairwise (fun a b => ((cell a 1).order (cell b 1)).isLE = true) ∧
      connection.query (.select t.name ["value"] "id" (some "ordinality")) [Codec.encodeText id] =
        (.ok (sorted.map fun row => [cell row 2]), connection) := by
  have listed : t.columnNames = ["id", "ordinality", "value"] := ScoutTable.columnNames_collection child
  have names : (Statement.select t.name ["value"] "id" (some "ordinality")).names ⊆ t.name :: t.columnNames := by
    rw [listed]
    intro name member
    simp [Statement.names] at member ⊢
    tauto
  obtain ⟨contents, stores, ran⟩ := holds.query_eq id names rfl fun contents => ScoutTable.target_select _ _
  have operands : t.columnNames.map (Operand.ofName (contents.table t).toRelation) =
      (List.range' 0 t.columnNames.length).map fun index => .stored (.column index) := Relation.Lists.operands t.lists
  rw [listed] at operands
  obtain ⟨-, second, third⟩ : Operand.ofName (contents.table t).toRelation "id" = .stored (.column 0) ∧
      Operand.ofName (contents.table t).toRelation "ordinality" = .stored (.column 1) ∧
      Operand.ofName (contents.table t).toRelation "value" = .stored (.column 2) := by
    simpa [List.range'] using operands
  have scanned := scan_id (stores t) id [.stored (.column 2)] [.stored (.column 1)]
  obtain ⟨met, sorted⟩ : ∃ met, (contents.table t).scan ⟨.ofName (contents.table t).toRelation "id",
      Codec.encodeText id, [.stored (.column 2)], [.stored (.column 1)]⟩ = Relation.sort [.column 1] met := ⟨_, rfl⟩
  have read : Database.read (contents.table t).toRelation (.select t.name ["value"] "id" (some "ordinality"))
      [Codec.encodeText id] = ((Relation.sort [.column 1] met).map (·.values)).map fun row => [cell row 2] := by
    rw [← sorted, List.map_map]
    simp only [Database.read, Relation.read, List.map_cons, List.map_nil, Option.toList_some, second, third]
    rfl
  rw [sorted] at scanned
  rw [read] at ran
  exact ⟨_, scanned, List.pairwise_map.mpr (Relation.sort_sorted (.column 1) met), ran⟩

theorem query_collection (holds : Holds connection rows) (child : t ∈ ScoutTable.collections) {id : String}
    {values : List Value} (small : values.length < 2 ^ 63)
    (same : ((rows t).filter (hasId id)).Perm (elementRows (Codec.encodeText id) 0 values)) :
    connection.query (.select t.name ["value"] "id" (some "ordinality")) [Codec.encodeText id] =
      (.ok (values.map fun value => [value]), connection) := by
  obtain ⟨sorted, met, rising, ran⟩ := holds.query_ordered child id
  have numbered := met.trans same
  have ordered : sorted.Pairwise fun a b => ordinal a ≤ ordinal b := by
    refine rising.imp_of_mem fun {a b} first second below => ?_
    obtain ⟨place, value, -, rfl⟩ := mem_elementRows (numbered.mem_iff.mp first)
    obtain ⟨later, other, -, rfl⟩ := mem_elementRows (numbered.mem_iff.mp second)
    exact Int.isLE_compare.mp below
  rw [ran, eq_elementRows small numbered ordered]
  refine congrArg (fun found => (Except.ok found, connection)) ?_
  generalize 0 = start
  clear small same numbered ordered ran met rising
  induction values generalizing start with
  | nil => rfl
  | cons value rest ih => exact congrArg (List.cons _) (ih _)

end Holds
end EntityStore
