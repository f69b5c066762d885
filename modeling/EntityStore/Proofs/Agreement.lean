import EntityStore.Proofs.Meaning
import EntityStore.Proofs.Plan
import EntityStore.Proofs.Protocol
import EntityStore.Proofs.Scouts.Roster

/-! The statements of calls mean what the calls are about. The texts come from the schema and the parameters from the
entity, by separate ways, and still each parameter stands where the name of its column does. -/

namespace EntityStore
open Engine

def Schema.names (schema : Schema) : List String :=
  schema.table :: schema.idColumn :: (schema.columns.map (·.name) ++ schema.collections.map (·.table))

namespace Schema
variable (schema : Schema)

theorem table_mem : schema.table ∈ schema.names := List.mem_cons_self

theorem columnNames_subset : schema.columnNames ⊆ schema.names := by
  refine List.Subset.trans ?_ (List.subset_cons_self _ _)
  exact List.cons_subset_cons _ (List.subset_append_left _ _)

theorem idColumn_mem : schema.idColumn ∈ schema.names := schema.columnNames_subset List.mem_cons_self

theorem collection_mem {collection : Collection} (member : collection ∈ schema.collections) :
    collection.table ∈ schema.names := by
  refine List.mem_cons_of_mem _ (List.mem_cons_of_mem _ (List.mem_append_right _ ?_))
  exact List.mem_map_of_mem member

end Schema

def Request.issued? : Request → Option (Statement × List Value)
  | .execute statement parameters | .query statement parameters => some (statement, parameters)
  | .begin | .advance _ | .scan | .close | .commit | .rollback | .check => none

namespace Mapping
variable {E : Type} (mapping : Mapping E)

/-- Everything that a call can issue: an update looks for its row first. -/
def issued (call : Call E) : List (Statement × List Value) := mapping.queries call ++ mapping.writes call

/-- One row for each element, with its place from zero, and nothing for an empty collection. -/
def fillMeaning (collection : Collection) (id : Value) (values : List Value) : List Meaning :=
  if values.isEmpty then [] else
    [.insert collection.table (values.zipIdx.map fun (value, place) =>
      [(Collection.idColumn, id), (Collection.ordinalityColumn, .integer (Int64.ofInt place)),
        (Collection.valueColumn, value)])]

def refillMeaning (mask : FieldMask) (collection : Collection) (id : Value) (values : List Value) : List Meaning :=
  if mask.included collection.field then
    .delete collection.table (Collection.idColumn, id) :: fillMeaning collection id values
  else []

/-- For each column whether the mask includes its field, and its value. -/
def changes (entity : E) (mask : FieldMask) : List (String × Value × Value) :=
  (mapping.schema.columns.zip (mapping.encodeColumns entity)).map fun (column, value) =>
    (column.name, Value.ofBool (mask.included column.field), value)

/-- What the statements of a call are to mean, in their order. -/
def meanings : Call E → List Meaning
  | .create entity =>
      let id := Codec.encodeText (mapping.id entity)
      .insert mapping.schema.table
          [(mapping.schema.idColumn, id) :: (mapping.schema.columns.map (·.name)).zip (mapping.encodeColumns entity)] ::
        mapping.schema.collections.zipIdx.flatMap fun (collection, index) =>
          fillMeaning collection id (mapping.encodeCollection entity index)
  | .read id =>
      let id := Codec.encodeText id
      .select mapping.schema.table (mapping.schema.idColumn :: mapping.schema.columns.map (·.name))
          (mapping.schema.idColumn, id) none ::
        mapping.schema.collections.map fun collection =>
          .select collection.table [Collection.valueColumn] (Collection.idColumn, id) (some Collection.ordinalityColumn)
  | .update entity mask =>
      let id := Codec.encodeText (mapping.id entity)
      .probe mapping.schema.table (mapping.schema.idColumn, id) ::
        ((if mapping.schema.columns.isEmpty then []
          else [.update mapping.schema.table (mapping.changes entity mask) (mapping.schema.idColumn, id)]) ++
        mapping.schema.collections.zipIdx.flatMap fun (collection, index) =>
          refillMeaning mask collection id (mapping.encodeCollection entity index))
  | .delete id =>
      let id := Codec.encodeText id
      (mapping.schema.collections.map fun collection => .delete collection.table (Collection.idColumn, id)) ++
        [.delete mapping.schema.table (mapping.schema.idColumn, id)]

end Mapping

/-- Each statement means what stands at its place. -/
def Agree (issued : List (Statement × List Value)) (meanings : List Meaning) : Prop :=
  List.Forall₂ (fun issued meaning => Meaning.Of issued.1.text issued.2 meaning) issued meanings

theorem Agree.append {first second : List (Statement × List Value)} {early late : List Meaning}
    (agree : Agree first early) (rest : Agree second late) : Agree (first ++ second) (early ++ late) :=
  List.rel_append agree rest

theorem Agree.map {α : Type} {items : List α} {issued : α → Statement × List Value} {meaning : α → Meaning}
    (each : ∀ item ∈ items, Meaning.Of (issued item).1.text (issued item).2 (meaning item)) :
    Agree (items.map issued) (items.map meaning) := by
  rw [Agree, List.forall₂_map_left_iff, List.forall₂_map_right_iff, List.forall₂_same]
  exact each

namespace Mapping
variable {E : Type} {mapping : Mapping E} {collection : Collection} {collections : List Collection}

theorem cells_elementRows (id : Value) (start : Nat) (values : List Value) :
    (elementRows id start values).map Collection.columnNames.zip = (values.zipIdx start).map fun (value, place) =>
      [(Collection.idColumn, id), (Collection.ordinalityColumn, .integer (Int64.ofInt place)),
        (Collection.valueColumn, value)] := by
  induction values generalizing start with
  | nil => rfl
  | cons value rest ih => rw [elementRows, List.map_cons, ih, List.zipIdx_cons, List.map_cons]; rfl

theorem agree_fill (named : '\x00' ∉ collection.table.toList) (id : Value) (values : List Value) :
    Agree (fill collection id values) (fillMeaning collection id values) := by
  cases values with
  | nil => exact .nil
  | cons first others =>
    have wide : ∀ row ∈ elementRows id 0 (first :: others), row.length = Collection.columnNames.length := by
      intro row member
      obtain ⟨place, value, -, rfl⟩ := mem_elementRows member
      rfl
    have names : ∀ name ∈ collection.table :: Collection.columnNames, '\x00' ∉ name.toList :=
      List.forall_mem_cons.mpr ⟨named, by decide⟩
    have means := Statement.insertRows_means names (List.cons_ne_nil _ _) wide (length_elementRows id 0 (first :: others))
    rw [flatten_elementRows, cells_elementRows] at means
    exact .cons means .nil

theorem agree_clear (named : '\x00' ∉ collection.table.toList) (id : Value) :
    Meaning.Of collection.delete.text [id] (.delete collection.table (Collection.idColumn, id)) :=
  Statement.delete_means (List.forall_mem_cons.mpr ⟨named, by decide⟩)

theorem agree_clears (named : ∀ collection ∈ collections, '\x00' ∉ collection.table.toList) (id : Value) :
    Agree (clears id collections)
      (collections.map fun collection => .delete collection.table (Collection.idColumn, id)) :=
  Agree.map fun collection member => agree_clear (named collection member) id

theorem agree_selects (named : ∀ collection ∈ collections, '\x00' ∉ collection.table.toList) (id : Value) :
    Agree (collections.map fun collection => (collection.select, [id])) (collections.map fun collection =>
      .select collection.table [Collection.valueColumn] (Collection.idColumn, id) (some Collection.ordinalityColumn)) := by
  refine Agree.map fun collection member => Statement.select_means (List.cons_ne_nil _ _) ?_
  exact List.forall_mem_cons.mpr ⟨named collection member, by decide⟩

theorem agree_fills (named : ∀ collection ∈ collections, '\x00' ∉ collection.table.toList) (entity : E) (id : Value)
    (start : Nat) : Agree (mapping.fills entity id start collections)
      ((collections.zipIdx start).flatMap fun (collection, index) =>
        fillMeaning collection id (mapping.encodeCollection entity index)) := by
  induction collections generalizing start with
  | nil => exact .nil
  | cons collection rest ih =>
    obtain ⟨here, later⟩ := List.forall_mem_cons.mp named
    rw [fills, List.zipIdx_cons, List.flatMap_cons]
    exact (agree_fill here id _).append (ih later (start + 1))

theorem agree_refills (named : ∀ collection ∈ collections, '\x00' ∉ collection.table.toList) (entity : E)
    (mask : FieldMask) (id : Value) (start : Nat) : Agree (mapping.refills entity mask id start collections)
      ((collections.zipIdx start).flatMap fun (collection, index) =>
        refillMeaning mask collection id (mapping.encodeCollection entity index)) := by
  induction collections generalizing start with
  | nil => exact .nil
  | cons collection rest ih =>
    obtain ⟨here, later⟩ := List.forall_mem_cons.mp named
    rw [refills, List.zipIdx_cons, List.flatMap_cons]
    refine Agree.append ?_ (ih later (start + 1))
    unfold refillMeaning
    by_cases included : mask.included collection.field = true
    · simp only [if_pos included]
      exact .cons (agree_clear here id) (agree_fill here id _)
    · simp only [if_neg included]
      exact .nil

theorem agree_columnWrites (named : ∀ name ∈ mapping.schema.names, '\x00' ∉ name.toList) (entity : E)
    (same : (mapping.encodeColumns entity).length = mapping.schema.columns.length) (mask : FieldMask) (id : Value) :
    Agree (mapping.columnWrites entity mask id) (if mapping.schema.columns.isEmpty then []
      else [.update mapping.schema.table (mapping.changes entity mask) (mapping.schema.idColumn, id)]) := by
  unfold columnWrites Schema.update?
  by_cases empty : mapping.schema.columns.isEmpty = true
  · rw [if_pos empty, if_pos empty]
    exact .nil
  rw [if_neg empty, if_neg empty]
  have names : (mapping.changes entity mask).map (·.1) = mapping.schema.columns.map (·.name) := by
    have firsts : (mapping.schema.columns.zip (mapping.encodeColumns entity)).map Prod.fst = mapping.schema.columns :=
      List.map_fst_zip (Nat.le_of_eq same.symm)
    rw [changes, List.map_map, ← firsts, List.map_map, firsts]
    rfl
  have bound : (mapping.changes entity mask).flatMap (fun change => [change.2.1, change.2.2]) =
      maskedParameters mask mapping.schema.columns (mapping.encodeColumns entity) := by
    rw [changes, List.flatMap_map]
    rfl
  have nonempty : mapping.changes entity mask ≠ [] := by
    intro none
    rw [none, List.map_nil] at names
    exact empty (List.isEmpty_iff.mpr (List.map_eq_nil_iff.mp names.symm))
  have known : ∀ name ∈ mapping.schema.table :: mapping.schema.idColumn :: (mapping.changes entity mask).map (·.1),
      '\x00' ∉ name.toList := by
    rw [names]
    refine fun name member => named name ?_
    rcases List.mem_cons.mp member with rfl | member
    · exact mapping.schema.table_mem
    · exact mapping.schema.columnNames_subset member
  have means : Meaning.Of _ _ (.update _ _ (_, id)) := Statement.update_means nonempty known
  rw [names, bound] at means
  exact .cons means .nil

theorem exchanges_issued (mapping : Mapping E) (call : Call E) {σ : Type} (store : Store σ) (state : σ) :
    ∀ exchange ∈ mapping.exchanges store call state, ∀ issued ∈ exchange.request.issued?,
      issued ∈ mapping.issued call := by
  intro exchange member issued known
  have planned := (mapping.keeps_operation call).exchanges store state exchange member
  rcases exchange with ⟨request, response⟩
  cases request with
  | execute statement parameters =>
    cases known
    exact List.mem_append_right _ planned
  | query statement parameters =>
    cases known
    exact List.mem_append_left _ planned
  | begin | advance _ | scan | close | commit | rollback | check => cases known

/-- For every schema and entity, the statements that a call issues have as many marks outside names as parameters, and
mean what the call is about: each name of the schema stands with the value that belongs to it. -/
theorem issued_agree (mapping : Mapping E) (call : Call E)
    (named : ∀ name ∈ mapping.schema.names, '\x00' ∉ name.toList)
    (columns : ∀ entity ∈ call.entity?, (mapping.encodeColumns entity).length = mapping.schema.columns.length)
    {σ : Type} (store : Store σ) (state : σ) :
    (∀ exchange ∈ mapping.exchanges store call state, ∀ issued ∈ exchange.request.issued?,
      issued ∈ mapping.issued call) ∧ Agree (mapping.issued call) (mapping.meanings call) := by
  refine ⟨mapping.exchanges_issued call store state, ?_⟩
  have table := named _ mapping.schema.table_mem
  have key := named _ mapping.schema.idColumn_mem
  have scalars : ∀ name ∈ mapping.schema.columnNames, '\x00' ∉ name.toList :=
    fun name member => named name (mapping.schema.columnNames_subset member)
  have collections : ∀ collection ∈ mapping.schema.collections, '\x00' ∉ collection.table.toList :=
    fun collection member => named _ (mapping.schema.collection_mem member)
  have both : ∀ name ∈ [mapping.schema.table, mapping.schema.idColumn], '\x00' ∉ name.toList :=
    List.forall_mem_cons.mpr ⟨table, List.forall_mem_singleton.mpr key⟩
  cases call with
  | create entity =>
    refine .cons ?_ (agree_fills collections entity _ 0)
    refine Statement.insert_means (List.forall_mem_cons.mpr ⟨table, scalars⟩) (List.cons_ne_nil _ _) ?_
    rw [List.length_cons, columns entity rfl, Schema.columnNames, List.length_cons, List.length_map]
  | read id =>
    have selected := agree_selects collections (Codec.encodeText id)
    rw [issued, queries, writes, List.append_nil, meanings]
    refine .cons (Statement.select_means (List.cons_ne_nil _ _) ?_) selected
    refine List.forall_mem_cons.mpr ⟨table, List.forall_mem_cons.mpr ⟨key, ?_⟩⟩
    rwa [Option.toList_none, List.append_nil]
  | update entity mask =>
    refine .cons (Statement.probe_means both) ?_
    exact (agree_columnWrites named entity (columns entity rfl) mask _).append (agree_refills collections entity mask _ 0)
  | delete id => exact (agree_clears collections _).append (.cons (Statement.delete_means both) .nil)

/-- Quotes, marks and separators inside names do not mislead the reader. -/
theorem issued_agree_odd :
    let schema : Schema :=
      { table := "odd\"name?", idColumn := "i, d", columns := [⟨"size", "\"\""⟩, ⟨"name", "b = ?;"⟩]
        collections := [⟨"flags", "(?, ?)\""⟩] }
    let call : Call Record := .update ⟨"s-1", [.text "x", .null], [[.integer 5, .text "?"]]⟩ ⟨["name", "flags"]⟩
    (∀ name ∈ schema.names, '\x00' ∉ name.toList) ∧
      Agree ((Record.mapping schema).issued call)
        [.probe "odd\"name?" ("i, d", .text "s-1"),
          .update "odd\"name?" [("\"\"", .integer 0, .text "x"), ("b = ?;", .integer 1, .null)] ("i, d", .text "s-1"),
          .delete "(?, ?)\"" ("id", .text "s-1"),
          .insert "(?, ?)\"" [[("id", .text "s-1"), ("ordinality", .integer 0), ("value", .integer 5)],
            [("id", .text "s-1"), ("ordinality", .integer 1), ("value", .text "?")]]] := by
  intro schema call
  have named : ∀ name ∈ schema.names, '\x00' ∉ name.toList := by decide
  have columns : ∀ entity ∈ call.entity?,
      ((Record.mapping schema).encodeColumns entity).length = schema.columns.length := by
    rintro entity ⟨⟩
    rfl
  let fresh := Connection.ofDatabase (Contents.database fun _ => [])
  exact ⟨named, (issued_agree (Record.mapping schema) call named columns Attached.store (.ofConnection fresh .live)).2⟩

end Mapping
end EntityStore
