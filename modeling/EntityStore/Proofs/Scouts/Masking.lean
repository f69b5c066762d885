import EntityStore.Proofs.Agenda
import EntityStore.Proofs.Scouts.Belonging
import EntityStore.Proofs.Scouts.Lengths
import EntityStore.Proofs.Scouts.Patching

/-! What an update makes of rows with any values in them, which need not be those of any scout. Column by column and
collection by collection, there is the new value where the mask includes the field, and otherwise what was there. -/

namespace EntityStore
open Engine ScoutWrite

def Schema.fields (schema : Schema) : List String :=
  schema.columns.map (·.field) ++ schema.collections.map (·.field)

def ScoutTable.value? (t : ScoutTable) (row : Row) (name : String) : Option Value := (t.columnNames.zip row).lookup name

/-- The scalar fields of a scout with the values that they are stored as. -/
def BoyScout.cells (scout : BoyScout) : List (String × Value) :=
  [("full_name", Scalar.encode scout.fullName), ("short_name", Scalar.encode scout.shortName),
    ("birthdate", Scalar.encode scout.birthdate), ("join_time", Scalar.encode scout.joinTime),
    ("country_code", Scalar.encode scout.countryCode), ("language_code", Scalar.encode scout.languageCode),
    ("pack_code", Scalar.encode scout.packCode), ("rank", Scalar.encode scout.rank),
    ("iana_country_code", Scalar.encode scout.ianaCountryCode), ("what_about_this", Scalar.encode scout.whatAboutThis),
    ("big_unsigned_int", Scalar.encode scout.bigUnsignedInt)]

/-- The rows of a scout who is stored before and after an update, and all others. -/
structure BoyScout.Overlaid (scout : BoyScout) (mask : FieldMask) (rows left : Rows) : Prop where
  columns : ∃ old new, (rows .boyScout).filter (hasId scout.id) = [old] ∧
    (left .boyScout).filter (hasId scout.id) = [new] ∧ new.length = old.length ∧
    ScoutTable.boyScout.value? new "id" = ScoutTable.boyScout.value? old "id" ∧
    ∀ field value, (field, value) ∈ scout.cells → ScoutTable.boyScout.value? new field =
      if mask.included field then some value else ScoutTable.boyScout.value? old field
  collections : ∀ field t, (field, t) ∈ BoyScout.placement.children → (left t).filter (hasId scout.id) =
    if mask.included field then elementRows (Codec.encodeText scout.id) 0 (scout.elements t)
    else (rows t).filter (hasId scout.id)
  others : ∀ t, ((left t).filter fun row => !hasId scout.id row) = (rows t).filter fun row => !hasId scout.id row
  girls : left .girlScout = rows .girlScout

namespace FieldMask
variable {mask : FieldMask} {cells : List (String × Value)} {old : List Value} {name : String} {value : Value}

theorem lookup_picked (mask : FieldMask) (apart : (cells.map (·.1)).Nodup) (wide : old.length = cells.length)
    (member : (name, value) ∈ cells) :
    ((cells.map (·.1)).zip ((cells.map fun cell => mask.pick cell.1 cell.2).zipWith Option.getD old)).lookup name =
      if mask.included name then some value else ((cells.map (·.1)).zip old).lookup name := by
  induction cells generalizing old with
  | nil => cases member
  | cons cell rest ih =>
    obtain ⟨here, apart⟩ := List.nodup_cons.mp apart
    cases old with
    | nil => cases wide
    | cons first old =>
      rcases List.mem_cons.mp member with rfl | later
      · simp only [List.map_cons, List.zipWith_cons_cons, List.zip_cons_cons, List.lookup_cons_self, pick]
        split <;> rfl
      · have different : (name == cell.1) = false := by
          rw [beq_eq_false_iff_ne]
          rintro rfl
          exact here (List.mem_map.mpr ⟨_, later, rfl⟩)
        simp only [List.map_cons, List.zipWith_cons_cons, List.zip_cons_cons, List.lookup_cons, different]
        exact ih apart (Nat.succ.inj wide) later

end FieldMask

namespace Mapping
variable {E : Type} {mapping : Mapping E} {first second : FieldMask}

theorem updateEntity_congr (entity : E)
    (same : ∀ field ∈ mapping.schema.fields, first.included field = second.included field) :
    mapping.updateEntity entity first = mapping.updateEntity entity second := by
  obtain ⟨columns, collections⟩ := List.forall_mem_append.mp same
  rw [List.forall_mem_map] at columns collections
  have parameters : maskedParameters first mapping.schema.columns (mapping.encodeColumns entity) =
      maskedParameters second mapping.schema.columns (mapping.encodeColumns entity) := by
    unfold maskedParameters
    rw [List.flatMap_congr]
    rintro ⟨column, value⟩ member
    dsimp only
    rw [columns column (List.of_mem_zip member).1]
  have replaced (id : Value) (start : Nat) (chosen : List Collection)
      (known : ∀ collection ∈ chosen, first.included collection.field = second.included collection.field) :
      mapping.replaceCollections entity first id start chosen =
        mapping.replaceCollections entity second id start chosen := by
    induction chosen generalizing start with
    | nil => rfl
    | cons collection rest ih =>
      obtain ⟨here, later⟩ := List.forall_mem_cons.mp known
      rw [replaceCollections, replaceCollections, here, ih (start + 1) later]
  unfold updateEntity updateColumns
  rw [parameters]
  simp only [replaced _ 0 _ collections]

end Mapping

namespace Placement
variable {E : Type} {mapping : Mapping E} (placement : Placement mapping) {connection : Connection} {rows : Rows}
  {entity : E} {mask : FieldMask}

theorem overwrite_none {values : List (Option Value)} (none : ∀ value ∈ values, value = .none) {row : Row}
    (wide : row.length = values.length + 1) : overwrite values row = row := by
  cases row with
  | nil => cases wide
  | cons key old =>
    have kept : values.zipWith Option.getD old = old := by
      have wide : old.length = values.length := Nat.succ.inj wide
      refine List.ext_getElem (by simp [wide]) fun index inside _ => ?_
      rw [List.getElem_zipWith, none _ (List.getElem_mem _), Option.getD_none]
    rw [overwrite, kept]

theorem length_row (holds : Holds connection rows) (entity : E) (mask : FieldMask) :
    ∀ row ∈ rows placement.parent, row.length = (placement.patch entity mask).columns.length + 1 := by
  intro row member
  have full := List.Forall₂.length_eq (holds.fits row member)
  have names := congrArg List.length placement.names
  rw [Schema.columnNames, ScoutTable.columnNames, List.length_cons, List.length_map, List.length_map] at names
  rw [placement.length_patch, ← full, names]

theorem field_mem {child : String × ScoutTable} (member : child ∈ placement.children) :
    child.1 ∈ mapping.schema.fields := by
  rw [Schema.fields, placement.collections, List.map_map]
  exact List.mem_append_right _ (List.mem_map.mpr ⟨child, member, rfl⟩)

theorem applyAll_unmasked (holds : Holds connection rows)
    (none : ∀ field ∈ mapping.schema.fields, mask.included field = false) :
    applyAll rows (placement.writes (.update entity mask)) = rows := by
  have columns := (List.forall_mem_append.mp none).1
  rw [List.forall_mem_map] at columns
  have unpicked {α : Type} {field : String} (out : mask.included field = false) (value : α) :
      mask.pick field value = .none := by
    rw [FieldMask.pick, out]
    rfl
  rw [applyAll_update]
  funext t
  unfold Patch.apply
  by_cases own : t = placement.parent
  · subst own
    rw [if_pos rfl]
    split
    · rfl
    · refine (List.map_congr_left fun row member => ?_).trans (List.map_id _)
      unfold Patch.row
      split
      · refine overwrite_none (fun value known => ?_) (placement.length_row holds entity mask row member)
        rw [patch, ← List.map_uncurry_zip_eq_zipWith] at known
        obtain ⟨⟨column, cell⟩, inside, rfl⟩ := List.mem_map.mp known
        exact unpicked (columns column (List.of_mem_zip inside).1) cell
      · rfl
  · rw [if_neg own]
    have kept : (placement.patch entity mask).elements t = .none := by
      cases found : placement.children.find? fun child => child.2 = t with
      | none => simp only [patch, found, Option.bind_none]
      | some child =>
        have out := none child.1 (placement.field_mem (List.mem_of_find?_eq_some found))
        simp only [patch, found, Option.bind_some, unpicked out]
    rw [Patch.refilled, kept]

theorem statements_updateEntity (holds : Holds connection rows)
    (absent : (rows placement.parent).filter (hasId (mapping.id entity)) = []) (mask : FieldMask) (cursor : Cursor) :
    Exchange.statements ((mapping.updateEntity entity mask).exchanges Attached.store (.live connection cursor)) =
      [.query mapping.schema.probe [Codec.encodeText (mapping.id entity)]] := by
  have found := holds.query_probe placement.parent (mapping.id entity)
  rw [absent, ← placement.idColumn_eq.1, ← placement.table] at found
  have probed : (Operation.query mapping.schema.probe [Codec.encodeText (mapping.id entity)]).result Attached.store
      (.live connection cursor) = (.ok 0, .live connection ⟨[], none⟩) := Operation.result_query found
  rw [Mapping.updateEntity, Operation.exchanges_bind, probed, Exchange.statements_append, Operation.query,
    Operation.exchanges_ofStatement, Procedure.exchanges_ask]
  dsimp only
  rw [Operation.exchanges_bind, Operation.result_advance_end, Exchange.statements_append, Operation.advance,
    Operation.exchanges_ofStatement, Procedure.exchanges_ask]
  rfl

theorem begin_live (holds : Holds connection rows) (idle : connection.autocommit = true) (cursor : Cursor) :
    Attached.store.answer .begin (.live connection cursor) = (.ok (), .live connection.opened cursor) := by
  simp only [Attached.store, Attached.answer, Attached.after, Transaction.begin, Transaction.guarded,
    holds.steady.beginWriting idle]
  rfl

theorem update_absent (idle : connection.autocommit = true) (holds : Holds connection rows)
    (absent : ¬ ∃ row ∈ rows placement.parent, hasId (mapping.id entity) row = true) (mask : FieldMask) :
    let start := Attached.ofConnection connection .live
    let ran := mapping.perform Attached.store (.update entity mask) start
    ran.1 = .error (mapping.notFound (mapping.id entity)) ∧ ran.2.2.connection.autocommit = true ∧
      Holds ran.2.2.connection rows ∧
      Exchange.statements (mapping.exchanges Attached.store (.update entity mask) start) =
        [.query mapping.schema.probe [Codec.encodeText (mapping.id entity)]] := by
  have none : (rows placement.parent).filter (hasId (mapping.id entity)) = [] :=
    List.filter_eq_nil_iff.mpr fun row member has => absent ⟨row, member, has⟩
  have failed := placement.updateEntity_none none holds.opened mask (.ofRows [])
  have same : mapping.operation (.update entity mask) = do
      return (fun _ => Reply.done) (← Operation.inTransaction (mapping.updateEntity entity mask)) := rfl
  obtain ⟨outcome, closed, held⟩ := refused_perform (fun _ => .done) idle holds same failed (.refl _)
  refine ⟨outcome, closed, held, ?_⟩
  obtain ⟨_, transacted, -⟩ := Mapping.transacted_around same Attached.store (.live connection (.ofRows []))
  have begun := begin_live holds idle (.ofRows [])
  rcases Mapping.statements_transacted transacted with ⟨⟨error, refused⟩, -⟩ | ⟨opened, starting, issued⟩
  · rw [begun] at refused
    cases refused
  · cases begun.symm.trans starting
    exact issued.trans (placement.statements_updateEntity holds.opened none mask _)

theorem update_stored (idle : connection.autocommit = true) (holds : Holds connection rows)
    (stored : ∃ row ∈ rows placement.parent, hasId (mapping.id entity) row = true)
    (brief : placement.Brief mask entity) :
    let ran := mapping.perform Attached.store (.update entity mask) (.ofConnection connection .live)
    ran.1 = .ok .done ∧ ran.2.2.connection.autocommit = true ∧
      Holds ran.2.2.connection (applyAll rows (placement.writes (.update entity mask))) ∧
      AllowedAll rows (placement.writes (.update entity mask)) := by
  obtain ⟨old, single⟩ := ScoutTable.single_id placement.parental holds stored
  have allowed := placement.replaced_allowed mask stored holds.distinct (List.Sublist.refl _) brief
  obtain ⟨outcome, closed, held⟩ := (placement.done_update idle holds single allowed).perform
  exact ⟨outcome, closed, held, allowed⟩

end Placement

namespace BoyScout
variable {scout : BoyScout} {mask : FieldMask} {connection : Connection} {rows : Rows}

theorem names_cells (scout : BoyScout) : ScoutTable.boyScout.columnNames = "id" :: scout.cells.map (·.1) := rfl

theorem picked_cells (scout : BoyScout) (mask : FieldMask) :
    Choice.values (mapping.choices scout mask) = scout.cells.map fun cell => mask.pick cell.1 cell.2 := rfl

/-- Every column but that of the id belongs to a field of its name. -/
theorem value?_overwrite (mask : FieldMask) {key : Value} {old : List Value} (wide : old.length = scout.cells.length)
    {field : String} {value : Value} (member : (field, value) ∈ scout.cells) :
    ScoutTable.boyScout.value? (overwrite (scout.cells.map fun cell => mask.pick cell.1 cell.2) (key :: old)) field =
      if mask.included field then some value else ScoutTable.boyScout.value? (key :: old) field := by
  have apart : ("id" :: scout.cells.map (·.1)).Nodup := by
    rw [← scout.names_cells]
    decide
  obtain ⟨id, apart⟩ := List.nodup_cons.mp apart
  have other : (field == "id") = false := by
    rw [beq_eq_false_iff_ne]
    rintro rfl
    exact id (List.mem_map.mpr ⟨_, member, rfl⟩)
  unfold ScoutTable.value?
  rw [scout.names_cells, overwrite, List.zip_cons_cons, List.zip_cons_cons, List.lookup_cons, List.lookup_cons, other]
  exact mask.lookup_picked apart wide member

theorem overlaid (holds : Holds connection rows) (stored : ∃ row ∈ rows .boyScout, hasId scout.id row = true)
    (allowed : AllowedAll rows (placement.writes (.update scout mask))) :
    scout.Overlaid mask rows (applyAll rows (placement.writes (.update scout mask))) := by
  have present := ne_of_stored stored
  refine ⟨?_, fun field t member => ?_, rest_applyAll (fun write member => ?_) allowed, ?_⟩
  · have parental : ScoutTable.boyScout ∉ ScoutTable.collections := placement.parental
    obtain ⟨old, single⟩ := ScoutTable.single_id parental holds stored
    have changed := placement.applyAll_update_parent rows scout mask
    rw [if_neg (by decide)] at changed
    have chosen := filter_updated scout.id (mapping.choices scout mask) (rows .boyScout)
    rw [single, List.map_singleton, picked_cells] at chosen
    refine ⟨old, _, single, (congrArg (List.filter _) changed).trans chosen, ?_⟩
    have fits := holds.fits old (List.mem_filter.mp (single ▸ List.mem_singleton_self old)).1
    rw [ScoutTable.columns_eq] at fits
    cases fits with
    | @cons _ key _ values first rest =>
      have wide : values.length = scout.cells.length := (List.Forall₂.length_eq rest).symm
      refine ⟨?_, rfl, fun field value member => value?_overwrite mask wide member⟩
      rw [overwrite, List.length_cons, List.length_zipWith, List.length_map, wide, Nat.min_self, List.length_cons, wide]
  · rw [placement.applyAll_update_child rows scout mask member]
    split
    · have gone := congrArg (elementRows (Codec.encodeText scout.id) 0 (scout.elements t) ++ ·)
        (filter_deleted scout.id (rows t))
      exact (filter_elementRows present _).trans (gone.trans (List.append_nil _))
    · rfl
  · exact (placement.writes_about (.update scout mask) write member).1
  · exact placement.applyAll_elsewhere rows _ (by decide) (by decide)

/-- How an update of a scout under a mask goes on a database with these rows. -/
structure KeepsMask (connection : Connection) (rows : Rows) (scout : BoyScout) (mask : FieldMask) : Prop where
  stored : (∃ row ∈ rows .boyScout, hasId scout.id row = true) → placement.Brief mask scout →
    let ran := mapping.perform Attached.store (.update scout mask) (.ofConnection connection .live)
    ran.1 = .ok .done ∧ ran.2.2.connection.autocommit = true ∧
      ∃ after, Holds ran.2.2.connection after ∧ scout.Overlaid mask rows after
  absent : (¬ ∃ row ∈ rows .boyScout, hasId scout.id row = true) →
    let start := Attached.ofConnection connection .live
    let ran := mapping.perform Attached.store (.update scout mask) start
    ran.1 = .error (.notFound "boy_scout" scout.id) ∧ ran.2.2.connection.autocommit = true ∧
      Holds ran.2.2.connection rows ∧
      Exchange.statements (mapping.exchanges Attached.store (.update scout mask) start) =
        [.query (.probe "boy_scout" "id") [Codec.encodeText scout.id]]
  /-- Names that are no fields make no difference, on any store. -/
  strangers : ∀ other : FieldMask, other.isAll = mask.isAll →
    (∀ field ∈ schema.fields, field ∈ other.fields ↔ field ∈ mask.fields) →
    ∀ {σ : Type} (store : Store σ) (state : σ),
      mapping.perform store (.update scout other) state = mapping.perform store (.update scout mask) state
  unnamed : mask.isAll = false → (∀ field ∈ schema.fields, field ∉ mask.fields) →
    Holds (mapping.perform Attached.store (.update scout mask) (.ofConnection connection .live)).2.2.connection rows

theorem perform_strangers (scout : BoyScout) {mask other : FieldMask} (all : other.isAll = mask.isAll)
    (same : ∀ field ∈ schema.fields, field ∈ other.fields ↔ field ∈ mask.fields) {σ : Type} (store : Store σ)
    (state : σ) :
    mapping.perform store (.update scout other) state = mapping.perform store (.update scout mask) state := by
  have included : ∀ field ∈ schema.fields, other.included field = mask.included field := by
    intro field member
    rw [FieldMask.included, FieldMask.included, all, Bool.eq_iff_iff, Bool.or_eq_true, Bool.or_eq_true,
      List.contains_iff_mem, List.contains_iff_mem, same field member]
  have bodies : mapping.updateEntity scout other = mapping.updateEntity scout mask :=
    Mapping.updateEntity_congr scout included
  have operations : mapping.operation (.update scout other) = mapping.operation (.update scout mask) :=
    congrArg (fun body => (do Operation.inTransaction body; return .done : Operation (Reply BoyScout))) bodies
  have events : mapping.event (.update scout other) = mapping.event (.update scout mask) :=
    congrArg (fun whole => Event.updated mapping.schema.table (!whole)) all
  unfold Mapping.perform
  rw [operations, events]

end BoyScout

/-- Updates on any migrated database, whatever values its columns hold. -/
theorem update_keepsMask {connection : Connection} {rows : Rows} (idle : connection.autocommit = true)
    (holds : Holds connection rows) (scout : BoyScout) (mask : FieldMask) :
    BoyScout.KeepsMask connection rows scout mask where
  stored stored brief := by
    obtain ⟨done, closed, held, allowed⟩ := BoyScout.placement.update_stored idle holds stored brief
    exact ⟨done, closed, _, held, BoyScout.overlaid holds stored allowed⟩
  absent absent := BoyScout.placement.update_absent idle holds absent mask
  strangers other all same σ store state := BoyScout.perform_strangers scout all same store state
  unnamed named none := by
    have out : ∀ field ∈ BoyScout.schema.fields, mask.included field = false := by
      intro field member
      rw [FieldMask.included, named, Bool.false_or, Bool.eq_false_iff]
      exact fun named => none field member (List.contains_iff_mem.mp named)
    by_cases stored : ∃ row ∈ rows .boyScout, hasId scout.id row = true
    · have brief : BoyScout.placement.Brief mask scout := by
        intro child member included
        rw [out child.1 (BoyScout.placement.field_mem member)] at included
        cases included
      obtain ⟨-, -, held, -⟩ := BoyScout.placement.update_stored idle holds stored brief
      rw [BoyScout.placement.applyAll_unmasked holds out] at held
      exact held
    · exact (BoyScout.placement.update_absent idle holds stored mask).2.2.1

/-- A scout whose row and badges no reader accepts is promoted and given other badges. The id is no field of a mask. -/
theorem update_keepsMask_odd :
    let contents : Contents := fun
      | .boyScout => [⟨1, [.text "s-1", .blob [1, 2], .null, .text "soon", .text "now", .null, .null, .integer (-4),
          .integer 99, .null, .null, .text "many"]⟩]
      | .badges => [⟨2, [.text "s-1", .text "last", .blob []]⟩, ⟨1, [.text "s-1", .integer 7, .integer 41]⟩]
      | _ => []
    let start := { Connection.ofDatabase contents.database with knowsTables := true }
    let scout : BoyScout := { id := "s-1", rank := .eagle, badges := [.knots, .knots] }
    let ran :=
      BoyScout.mapping.perform Attached.store (.update scout ⟨["badges", "id", "rank"]⟩) (.ofConnection start .live)
    ran.1 = .ok .done ∧ ∃ after, Holds ran.2.2.connection after ∧
      (after .badges).filter (hasId "s-1") =
        [[.text "s-1", .integer 0, .integer 4], [.text "s-1", .integer 1, .integer 4]] ∧
      ∃ new, (after .boyScout).filter (hasId "s-1") = [new] ∧
        ScoutTable.boyScout.value? new "rank" = some (.integer 3) ∧
        ScoutTable.boyScout.value? new "full_name" = some (.blob [1, 2]) := by
  intro contents start scout
  have holds : Holds start fun t => (contents t).map (·.values) := by
    refine Contents.holds (fun t => ?_) (fun t => ?_) fun t => ?_ <;> cases t <;> decide +kernel
  have kept := update_keepsMask rfl holds scout ⟨["badges", "id", "rank"]⟩
  have brief : BoyScout.placement.Brief ⟨["badges", "id", "rank"]⟩ scout := by
    rw [BoyScout.brief_iff]
    decide
  obtain ⟨done, -, after, held, columns, collections, -, -⟩ := kept.stored ⟨_, List.mem_cons_self, by decide⟩ brief
  obtain ⟨old, new, before, now, -, -, cells⟩ := columns
  cases before.symm.trans (rfl : List.filter (hasId "s-1") ((contents .boyScout).map (·.values)) = _)
  refine ⟨done, after, held, collections "badges" .badges (by decide), new, now, ?_, ?_⟩
  · exact cells "rank" (.integer 3) (by decide)
  · exact cells "full_name" .null (by decide)

end EntityStore
