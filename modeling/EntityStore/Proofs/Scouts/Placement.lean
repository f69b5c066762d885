import EntityStore.Proofs.Plan
import EntityStore.Proofs.Scouts.Steps

/-! How the mappings of the scouts lie over their tables. What a call plans to write is put in terms of the tables, so
that what is known of writes to them can be said of calls. -/

namespace EntityStore
open Engine

/-- An entity has a row in one table, and the elements of a field in each of some others. -/
structure Placement {E : Type} (mapping : Mapping E) where
  parent : ScoutTable
  /-- Fields and the tables of their elements. -/
  children : List (String × ScoutTable)
  elements : E → ScoutTable → List Value
  parental : parent ∉ ScoutTable.collections
  inside : ∀ child ∈ children, child.2 ∈ ScoutTable.collections
  apart : (children.map (·.2)).Nodup
  owner : ∀ child ∈ children, parent = .boyScout
  whole : parent = .boyScout → ScoutTable.collections ⊆ children.map (·.2)
  table : mapping.schema.table = parent.name
  names : mapping.schema.columnNames = parent.columnNames
  collections : mapping.schema.collections = children.map fun child => ⟨child.1, child.2.name⟩
  encoded : ∀ entity, (List.range children.length).map (mapping.encodeCollection entity) =
    children.map fun child => elements entity child.2
  accepted : ∀ entity, List.Forall₂ parent.Accepts parent.columns.tail (mapping.encodeColumns entity)
  acceptedElements : ∀ entity, ∀ child ∈ children, ∀ value ∈ elements entity child.2,
    List.Forall₂ child.2.Accepts (child.2.columns.drop 2) [value]

/-- One statement can hold the elements of each collection. -/
def Placement.Few {E : Type} {mapping : Mapping E} (placement : Placement mapping) (entity : E) : Prop :=
  ∀ child ∈ placement.children, (placement.elements entity child.2).length * 3 ≤ variableLimit

namespace ScoutWrite

def toWrite (write : ScoutWrite) : Write := (write.statement, write.parameters)

def fills (t : ScoutTable) (id : String) : List Value → List ScoutWrite
  | [] => []
  | first :: others => [.fill t id first others]

/-- Clears a collection and fills it again. -/
def refills (t : ScoutTable) (id : String) (values : List Value) : List ScoutWrite := .delete t id :: fills t id values

end ScoutWrite

def Mapping.choices {E : Type} (mapping : Mapping E) (entity : E) (mask : FieldMask) : List Choice :=
  (mapping.schema.columns.zip (mapping.encodeColumns entity)).map fun (column, value) =>
    (mask.included column.field, value)

namespace Placement
variable {E : Type} {mapping : Mapping E} (placement : Placement mapping)

def columnWrites (entity : E) (mask : FieldMask) : List ScoutWrite :=
  if mapping.schema.columns.isEmpty then []
  else [.update placement.parent (mapping.id entity) (mapping.choices entity mask)]

def fill (entity : E) (child : String × ScoutTable) : List ScoutWrite :=
  ScoutWrite.fills child.2 (mapping.id entity) (placement.elements entity child.2)

def refill (entity : E) (mask : FieldMask) (child : String × ScoutTable) : List ScoutWrite :=
  if mask.included child.1 then ScoutWrite.refills child.2 (mapping.id entity) (placement.elements entity child.2)
  else []

def writes : Call E → List ScoutWrite
  | .create entity =>
      .insert placement.parent (mapping.id entity) (mapping.encodeColumns entity) ::
        placement.children.flatMap (placement.fill entity)
  | .read _ => []
  | .update entity mask =>
      placement.columnWrites entity mask ++ placement.children.flatMap (placement.refill entity mask)
  | .delete id => placement.children.map (fun child => .delete child.2 id) ++ [.delete placement.parent id]

variable {t : ScoutTable}

theorem fill_eq (child : t ∈ ScoutTable.collections) (field id : String) (values : List Value) :
    Mapping.fill ⟨field, t.name⟩ (Codec.encodeText id) values =
      (ScoutWrite.fills t id values).map ScoutWrite.toWrite := by
  cases values with
  | nil => rfl
  | cons first others =>
    unfold Mapping.fill Collection.insert
    rw [← ScoutTable.columnNames_collection child]
    rfl

theorem fills_eq (entity : E) {start : Nat} {children : List (String × ScoutTable)}
    (inside : ∀ child ∈ children, child.2 ∈ ScoutTable.collections)
    (encoded : (List.range' start children.length).map (mapping.encodeCollection entity) =
      children.map fun child => placement.elements entity child.2) :
    mapping.fills entity (Codec.encodeText (mapping.id entity)) start
        (children.map fun child => ⟨child.1, child.2.name⟩) =
      (children.flatMap (placement.fill entity)).map ScoutWrite.toWrite := by
  induction children generalizing start with
  | nil => rfl
  | cons child rest ih =>
    rw [List.length_cons, List.range'_succ, List.map_cons, List.map_cons] at encoded
    obtain ⟨here, later⟩ := List.cons.inj encoded
    rw [List.map_cons, Mapping.fills, here, fill_eq (inside child List.mem_cons_self), List.flatMap_cons, List.map_append,
      ih (fun other member => inside other (List.mem_cons_of_mem _ member)) later]
    rfl

theorem refills_eq (entity : E) (mask : FieldMask) {start : Nat} {children : List (String × ScoutTable)}
    (inside : ∀ child ∈ children, child.2 ∈ ScoutTable.collections)
    (encoded : (List.range' start children.length).map (mapping.encodeCollection entity) =
      children.map fun child => placement.elements entity child.2) :
    mapping.refills entity mask (Codec.encodeText (mapping.id entity)) start
        (children.map fun child => ⟨child.1, child.2.name⟩) =
      (children.flatMap (placement.refill entity mask)).map ScoutWrite.toWrite := by
  induction children generalizing start with
  | nil => rfl
  | cons child rest ih =>
    rw [List.length_cons, List.range'_succ, List.map_cons, List.map_cons] at encoded
    obtain ⟨here, later⟩ := List.cons.inj encoded
    rw [List.map_cons, Mapping.refills, here, fill_eq (inside child List.mem_cons_self), List.flatMap_cons,
      List.map_append, ih (fun other member => inside other (List.mem_cons_of_mem _ member)) later, refill]
    by_cases included : mask.included child.1 = true
    · rw [if_pos included, if_pos included]
      rfl
    · rw [if_neg included, if_neg included]
      rfl

theorem idColumn_eq : mapping.schema.idColumn = "id" ∧
    mapping.schema.columns.map (·.name) = placement.parent.columnNames.tail := by
  have names := placement.names
  rw [Schema.columnNames, ScoutTable.columnNames, ScoutTable.columns_eq] at names
  rw [ScoutTable.columnNames, ScoutTable.columns_eq]
  exact List.cons.inj names

theorem parameters_choices (entity : E) (mask : FieldMask) :
    Mapping.maskedParameters mask mapping.schema.columns (mapping.encodeColumns entity) =
      Choice.parameters (mapping.choices entity mask) := by
  unfold Mapping.maskedParameters Choice.parameters Mapping.choices
  rw [List.flatMap_map]

theorem columnWrites_eq (entity : E) (mask : FieldMask) :
    mapping.columnWrites entity mask (Codec.encodeText (mapping.id entity)) =
      (placement.columnWrites entity mask).map ScoutWrite.toWrite := by
  obtain ⟨key, names⟩ := placement.idColumn_eq
  unfold Mapping.columnWrites Schema.update? columnWrites
  by_cases empty : mapping.schema.columns.isEmpty = true
  · rw [if_pos empty, if_pos empty]
    rfl
  · rw [if_neg empty, if_neg empty, placement.table, names, key, parameters_choices]
    rfl

theorem writes_eq (call : Call E) : mapping.writes call = (placement.writes call).map ScoutWrite.toWrite := by
  obtain ⟨key, -⟩ := placement.idColumn_eq
  have encoded := fun entity => placement.encoded entity
  simp only [List.range_eq_range'] at encoded
  cases call with
  | create entity =>
    simp only [Mapping.writes, writes, placement.collections]
    rw [placement.fills_eq entity placement.inside (encoded entity), List.map_cons, Schema.insert, placement.table,
      placement.names]
    rfl
  | read id => rfl
  | update entity mask =>
    simp only [Mapping.writes, writes, placement.collections]
    rw [placement.refills_eq entity mask placement.inside (encoded entity), List.map_append, placement.columnWrites_eq]
  | delete id =>
    simp only [Mapping.writes, writes, placement.collections, Mapping.clears, List.map_map, List.map_append]
    rw [Schema.delete, placement.table, key]
    rfl

section Columns
include placement

theorem length_columns (entity : E) : (mapping.encodeColumns entity).length = mapping.schema.columns.length := by
  have full := (placement.accepted entity).length_eq
  have names := congrArg List.length placement.idColumn_eq.2
  rw [List.length_map, ScoutTable.columnNames, List.length_tail, List.length_map, ← List.length_tail] at names
  rw [← full, names]

theorem choices_values (entity : E) (mask : FieldMask) :
    (mapping.choices entity mask).map (·.2) = mapping.encodeColumns entity := by
  unfold Mapping.choices
  rw [List.map_map]
  exact List.map_snd_zip (Nat.le_of_eq (placement.length_columns entity))

end Columns

/-- The writes that calls are made of. -/
inductive Plans : ScoutWrite → Prop where
  | insert (entity : E) : Plans (.insert placement.parent (mapping.id entity) (mapping.encodeColumns entity))
  | fill (entity : E) {child : String × ScoutTable} (member : child ∈ placement.children) {first : Value}
      {others : List Value} (same : placement.elements entity child.2 = first :: others) :
      Plans (.fill child.2 (mapping.id entity) first others)
  | update (entity : E) (mask : FieldMask) :
      Plans (.update placement.parent (mapping.id entity) (mapping.choices entity mask))
  | clear {child : String × ScoutTable} (member : child ∈ placement.children) (id : String) : Plans (.delete child.2 id)
  | delete (id : String) : Plans (.delete placement.parent id)

theorem plans_fill (entity : E) {child : String × ScoutTable} (member : child ∈ placement.children) :
    ∀ write ∈ placement.fill entity child, placement.Plans write := by
  intro write inside
  unfold fill ScoutWrite.fills at inside
  split at inside
  · cases inside
  · rename_i first others same
    rw [List.mem_singleton.mp inside]
    exact .fill entity member same

theorem plans (call : Call E) : ∀ write ∈ placement.writes call, placement.Plans write := by
  intro write member
  cases call with
  | create entity =>
    rcases List.mem_cons.mp member with rfl | member
    · exact .insert entity
    · obtain ⟨child, known, member⟩ := List.mem_flatMap.mp member
      exact placement.plans_fill entity known write member
  | read id => cases member
  | update entity mask =>
    rcases List.mem_append.mp member with member | member
    · unfold columnWrites at member
      split at member
      · cases member
      · rw [List.mem_singleton.mp member]
        exact .update entity mask
    · obtain ⟨child, known, member⟩ := List.mem_flatMap.mp member
      unfold refill at member
      split at member
      · rcases List.mem_cons.mp member with rfl | member
        · exact .clear known _
        · exact placement.plans_fill entity known write member
      · cases member
  | delete id =>
    rcases List.mem_append.mp member with member | member
    · obtain ⟨child, known, rfl⟩ := List.mem_map.mp member
      exact .clear known id
    · rw [List.mem_singleton.mp member]
      exact .delete id

/-- Whatever a call plans to write, values stand where they are accepted. -/
theorem proper (call : Call E) : ∀ write ∈ placement.writes call, write.Proper := by
  intro write member
  cases placement.plans call write member with
  | insert entity => exact ⟨placement.parental, placement.accepted entity⟩
  | fill entity known same =>
    refine ⟨placement.inside _ known, ?_⟩
    rw [← same]
    exact placement.acceptedElements entity _ known
  | update entity mask =>
    refine ⟨placement.parental, ?_⟩
    rw [placement.choices_values]
    exact placement.accepted entity
  | clear known id => trivial
  | delete id => trivial

end Placement

def BoyScout.elements (scout : BoyScout) : ScoutTable → List Value
  | .badges => scout.badges.map Scalar.encode
  | .favoriteSongs => scout.favoriteSongs.map Scalar.encode
  | .campingTrips => scout.campingTrips.map Scalar.encode
  | .mask => scout.mask.map Scalar.encode
  | .boyScout | .girlScout => []

def BoyScout.placement : Placement BoyScout.mapping where
  parent := .boyScout
  children :=
    [("badges", .badges), ("favorite_songs", .favoriteSongs), ("camping_trips", .campingTrips), ("mask", .mask)]
  elements := BoyScout.elements
  parental := by decide
  inside := by decide
  apart := by decide
  owner := by decide
  whole := by decide
  table := rfl
  names := by decide +kernel
  collections := by decide +kernel
  encoded _ := rfl
  accepted scout :=
    have named {name : String} (other : name ≠ "big_unsigned_int") (content : String) :=
      ScoutTable.accepts_text (t := .boyScout) other (by decide) content
    have counted {name : String} (other : name ≠ "big_unsigned_int") (n : Int64) :=
      ScoutTable.accepts_integer (t := .boyScout) other (by decide) n
    .cons (named (by decide) _) <| .cons (named (by decide) _) <|
    .cons (ScoutTable.accepts_optionalDate (by decide) (by decide) _) <|
    .cons (ScoutTable.accepts_time (by decide) _) <| .cons (named (by decide) _) <| .cons (named (by decide) _) <|
    .cons (counted (by decide) _) <| .cons (counted (by decide) _) <| .cons (named (by decide) _) <|
    .cons (counted (by decide) _) <| .cons (ScoutTable.accepts_unsigned (by decide) _) .nil
  acceptedElements scout := by
    intro child member value inside
    simp only [List.mem_cons, List.not_mem_nil, or_false] at member
    rcases member with rfl | rfl | rfl | rfl
    · obtain ⟨badge, -, rfl⟩ := List.mem_map.mp inside
      exact .cons (ScoutTable.accepts_integer (by decide) (by decide) _) .nil
    · obtain ⟨song, -, rfl⟩ := List.mem_map.mp inside
      exact .cons (ScoutTable.accepts_text (by decide) (by decide) _) .nil
    · obtain ⟨trip, -, rfl⟩ := List.mem_map.mp inside
      exact .cons (ScoutTable.accepts_date (by decide) _) .nil
    · obtain ⟨field, -, rfl⟩ := List.mem_map.mp inside
      exact .cons (ScoutTable.accepts_text (by decide) (by decide) _) .nil

/-- No collection is too long for one statement. -/
structure BoyScout.Compact (scout : BoyScout) : Prop where
  badges : scout.badges.length * 3 ≤ variableLimit
  favoriteSongs : scout.favoriteSongs.length * 3 ≤ variableLimit
  campingTrips : scout.campingTrips.length * 3 ≤ variableLimit
  mask : scout.mask.length * 3 ≤ variableLimit

theorem BoyScout.Compact.few {scout : BoyScout} (compact : scout.Compact) : BoyScout.placement.Few scout := by
  obtain ⟨badges, songs, trips, fields⟩ := compact
  intro child member
  simp only [placement, List.mem_cons, List.not_mem_nil, or_false] at member
  rcases member with rfl | rfl | rfl | rfl <;> simp only [placement, elements, List.length_map] <;> assumption

def GirlScout.placement : Placement GirlScout.mapping where
  parent := .girlScout
  children := []
  elements _ _ := []
  parental := by decide
  inside := by decide
  apart := by decide
  owner := by decide
  whole := by decide
  table := rfl
  names := by decide +kernel
  collections := rfl
  encoded _ := rfl
  accepted _ := .nil
  acceptedElements := by
    intro scout child member
    cases member

theorem GirlScout.few (scout : GirlScout) : GirlScout.placement.Few scout := by
  intro child member
  cases member

end EntityStore
