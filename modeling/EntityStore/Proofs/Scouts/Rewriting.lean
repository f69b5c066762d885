import EntityStore.Proofs.Scouts.Sequences
import EntityStore.Proofs.Scouts.Stored
import EntityStore.Proofs.Timestamps

/-! What a read returns can be written back. It is stored as what it was read from, so an update with it, under whatever
mask, overwrites values with themselves and refills collections with the elements that they have. -/

namespace EntityStore
open Engine ScoutWrite

theorem Choice.values_getD (choices : List Choice) :
    (Choice.values choices).zipWith Option.getD (choices.map (·.2)) = choices.map (·.2) := by
  induction choices with
  | nil => rfl
  | cons choice rest ih =>
    rcases choice with ⟨_ | _, value⟩ <;> exact congrArg (value :: ·) ih

namespace Placement
variable {E : Type} {mapping : Mapping E} {placement : Placement mapping} {rows : Rows} {connection : Connection}
  {id : String}

/-- Two entities that come to the same rows. -/
structure StoredAlike (placement : Placement mapping) (first second : E) : Prop where
  row : mapping.row first = mapping.row second
  elements : ∀ child ∈ placement.children, placement.elements first child.2 = placement.elements second child.2

/-- What is read of an entity comes to the rows of the entity, if its row is one of those in question. -/
def Restores (placement : Placement mapping) (regular : Row → Prop) : Prop :=
  ∀ {entity found}, regular (mapping.row entity) → placement.decoded entity = .ok found →
    placement.StoredAlike found entity

theorem Shows.rewritten {old new : E} (shows : placement.Shows rows (mapping.id new) (some old))
    (alike : placement.StoredAlike new old) (distinct : ∀ t : ScoutTable, t.key.Distinct (rows t))
    (few : placement.Few old) (mask : FieldMask) :
    AllowedAll rows (placement.writes (.update new mask)) ∧
      placement.Shows (applyAll rows (placement.writes (.update new mask))) (mapping.id new) (some old) := by
  have columns : mapping.encodeColumns new = mapping.encodeColumns old := (List.cons.inj alike.row).2
  have kept := Choice.values_getD (mapping.choices new mask)
  rw [placement.choices_values, columns] at kept
  refine shows.update rfl kept.symm (fun child known => ?_) distinct fun child known => ?_
  · split
    · exact (alike.elements child known).symm
    · rfl
  · rw [alike.elements child known]
    exact few child known

theorem Shows.perm {left : Rows} {stored : Option E} (before : placement.Shows rows id stored)
    (after : placement.Shows left id stored) {t : ScoutTable} (inside : t ∈ placement.tables)
    (rest : ((left t).filter fun row => !hasId id row) = (rows t).filter fun row => !hasId id row) :
    (rows t).Perm (left t) := by
  have own : ((rows t).filter (hasId id)).Perm ((left t).filter (hasId id)) := by
    rcases List.mem_cons.mp inside with rfl | member
    · exact .of_eq (before.parents.trans after.parents.symm)
    · obtain ⟨child, known, rfl⟩ := List.mem_map.mp member
      exact (before.elements child known).trans (after.elements child known).symm
  have whole (rows : List Row) : (rows.filter (hasId id) ++ rows.filter fun row => !hasId id row).Perm rows :=
    List.filter_append_perm _ _
  exact (whole _).symm.trans ((own.append (.of_eq rest.symm)).trans (whole _))

theorem Shows.rewritten_perm {old new : E} (shows : placement.Shows rows (mapping.id new) (some old))
    (alike : placement.StoredAlike new old) (distinct : ∀ t : ScoutTable, t.key.Distinct (rows t))
    (few : placement.Few old) (mask : FieldMask) (t : ScoutTable) :
    (rows t).Perm (applyAll rows (placement.writes (.update new mask)) t) := by
  obtain ⟨allowed, after⟩ := shows.rewritten alike distinct few mask
  by_cases inside : t ∈ placement.tables
  · refine shows.perm after inside (rest_applyAll (fun write member => ?_) allowed t)
    exact (placement.writes_about (.update new mask) write member).1
  · rw [tables, List.mem_cons, not_or] at inside
    obtain ⟨parent, child⟩ := inside
    exact .of_eq (placement.applyAll_elsewhere rows (.update new mask) parent child).symm

end Placement

namespace Mapping
variable {E : Type} {mapping : Mapping E} {placement : Placement mapping} {rows : Rows} {connection : Connection}
  {id : String}

theorem performAll_error {α : Type} {call : Call E} {body : Operation α} {left : Connection} {last : Cursor}
    {error : CrudError} (reply : α → Reply E) (idle : connection.autocommit = true) (holds : Holds connection rows)
    (same : mapping.operation call = do return reply (← Operation.inTransaction body))
    (failed : body.result Attached.store (.live connection.opened (.ofRows [])) = (.error error, .live left last))
    (within : Connection.Within connection.opened left) :
    (mapping.performAll connection [call]).1 = [.error error] := by
  obtain ⟨outcome, -, -⟩ := Placement.refused_perform reply idle holds same failed within
  simp only [performAll, outcome]

/-- What a read returns is read of an entity that is stored under the id. -/
theorem stored_of_read {stored : Option E} {found : E} (shows : placement.Shows rows id stored)
    (few : ∀ entity ∈ stored, placement.Few entity) (idle : connection.autocommit = true)
    (holds : Holds connection rows) (read : (mapping.performAll connection [.read id]).1 = [.ok (.found found)]) :
    ∃ entity, stored = some entity ∧ placement.decoded entity = .ok found := by
  have same : mapping.operation (.read id) = do return .found (← Operation.inTransaction (mapping.readEntity id)) := rfl
  cases stored with
  | none =>
    have refused := placement.readEntity_none shows.parents holds.opened (.ofRows [])
    rw [performAll_error .found idle holds same refused (.refl _)] at read
    cases read
  | some entity =>
    refine ⟨entity, rfl, ?_⟩
    cases decoded : placement.decoded entity with
    | error error =>
      obtain ⟨last, refused⟩ := shows.readEntity holds.opened (few entity rfl) (.ofRows [])
      rw [decoded] at refused
      rw [performAll_error .found idle holds same refused (.refl _)] at read
      cases read
    | ok other =>
      obtain ⟨after, -, -, performed⟩ :=
        performAll_cons (shows.done_read (few entity rfl) idle holds decoded)
      rw [performed] at read
      cases read
      rfl

/-- Whatever a read returns can be written back under any mask, and all tables keep their rows. -/
def WritesBack (mapping : Mapping E) (connection : Connection) (id : String) : Prop :=
  ∀ (entity : E) (mask : FieldMask), (mapping.performAll connection [.read id]).1 = [.ok (.found entity)] →
    (mapping.performAll connection [.read id, .update entity mask]).1 = [.ok (.found entity), .ok .done] ∧
      connection.committed.SameRows (mapping.performAll connection [.read id, .update entity mask]).2.committed

theorem writesBack {regular : Row → Prop} (restores : placement.Restores regular) (combines : placement.Combines)
    (idle : connection.autocommit = true) (holds : Holds connection rows) (sound : Sound rows)
    (written : placement.Written rows) (regulars : ∀ row ∈ rows placement.parent, cell row 0 = .text id → regular row) :
    mapping.WritesBack connection id := by
  intro found mask read
  obtain ⟨stored, shows, few⟩ := written.shows sound combines holds.distinct id
  obtain ⟨entity, rfl, decoded⟩ := stored_of_read shows few idle holds read
  have few := few entity rfl
  have parent : mapping.row entity ∈ (rows placement.parent).filter (hasId id) := by
    rw [shows.parents]
    exact List.mem_cons_self
  obtain ⟨member, has⟩ := List.mem_filter.mp parent
  have alike := restores (regulars _ member (hasId_iff.mp has).2) decoded
  have own : mapping.id found = id := by
    rw [← alike.row] at has
    exact mapping.id_of_row has
  subst own
  obtain ⟨allowed, -⟩ := shows.rewritten alike holds.distinct few mask
  obtain ⟨between, still, same, performed⟩ := performAll_cons (shows.done_read few idle holds decoded)
  obtain ⟨after, closed, held, last⟩ := performAll_cons (placement.done_update still same shows.parents allowed)
  have both : mapping.performAll connection [.read (mapping.id found), .update found mask] =
      ([.ok (.found found), .ok .done], after) := by
    rw [performed, last]
    rfl
  rw [both]
  exact ⟨rfl, holds.sameRows idle held closed (shows.rewritten_perm alike holds.distinct few mask)⟩

end Mapping

/-- A moment of joining that is stored as NULL, or as a count of microseconds whose second does not saturate. -/
def BoyScout.Timely (row : Row) : Prop :=
  let joined := cell row (ScoutTable.boyScout.columnNames.idxOf "join_time")
  joined = .null ∨ ∃ micros, joined = .integer micros ∧ Timestamp.lowestMicros ≤ micros.toInt

theorem BoyScout.encode_settled {scout : BoyScout} (timely : Timely (mapping.row scout)) :
    Scalar.encode scout.settled.joinTime = Scalar.encode scout.joinTime := by
  have stored : cell (mapping.row scout) (ScoutTable.boyScout.columnNames.idxOf "join_time") =
      Scalar.encode scout.joinTime := rfl
  unfold Timely at timely
  rw [stored] at timely
  cases joined : scout.joinTime with
  | none =>
    rw [settled, joined]
    rfl
  | some time =>
    rw [joined] at timely
    have low : Timestamp.lowestMicros ≤ time.asMicros.toInt := by
      rcases timely with none | ⟨micros, same, low⟩
      · cases none
      · cases same
        exact low
    rw [settled, joined]
    exact congrArg Value.integer (Timestamp.asMicros_fromMicros low)

theorem BoyScout.restores : BoyScout.placement.Restores BoyScout.Timely := by
  intro scout found timely read
  rw [eq_settled_of_decoded read]
  refine ⟨?_, fun child known => ?_⟩
  · have joined := encode_settled timely
    simp only [Mapping.row, mapping, encodeColumns, joined]
    rfl
  · simp only [placement, List.mem_cons, List.not_mem_nil, or_false] at known
    rcases known with rfl | rfl | rfl | rfl <;> rfl

theorem GirlScout.restores : GirlScout.placement.Restores fun _ => True := by
  intro scout found _ read
  have same := Except.ok.inj ((GirlScout.decoded_self scout).symm.trans read)
  subst same
  exact ⟨rfl, fun _ _ => rfl⟩

theorem Reachable.performAll {connection : Connection} (reached : Reachable connection) (calls : List (Call BoyScout)) :
    Reachable (BoyScout.mapping.performAll connection calls).2 := by
  induction calls generalizing connection with
  | nil => exact reached
  | cons call rest ih =>
    have opened : Reachable (Attached.connection (.ofConnection connection .live)) := reached
    exact ih (.boy Attached.wraps call opened)

theorem Fresh.reads {connection : Connection} (fresh : Fresh connection) {scout : BoyScout} (storable : scout.Storable)
    (present : scout.id ≠ "") :
    let start := (BoyScout.mapping.performAll connection [.create scout]).2
    (BoyScout.mapping.performAll start [.read scout.id]).1 = [.ok (.found scout.settled)] ∧
      ∀ rows, start.committed.rowsOf? "boy_scout" = some rows →
        ∀ row ∈ rows, cell row 0 = .text scout.id → row = BoyScout.mapping.row scout := by
  intro start
  have few := storable.compact.few
  have blank : BoyScout.placement.Shows (fun _ => []) scout.id none := Sound.initial.shows_none rfl
  obtain ⟨allowed, shows⟩ := blank.create present fresh.holds.distinct few
  obtain ⟨after, idle, held, created⟩ :=
    Mapping.performAll_cons (BoyScout.placement.done_create fresh.idle fresh.holds allowed)
  have made : start = after := congrArg Prod.snd (created [])
  have done := shows.done_read few idle held (BoyScout.decoded_settled storable.birthdate storable.campingTrips)
  obtain ⟨still, -, -, read⟩ := Mapping.performAll_cons done
  rw [made]
  refine ⟨congrArg Prod.fst (read []), fun rows stored row member own => ?_⟩
  obtain ⟨others, listed⟩ := held.rowsOf?
  obtain ⟨listed, same⟩ := listed .boyScout
  rw [Connection.committed_eq idle] at stored
  cases Option.some.inj (listed.symm.trans stored)
  have has : hasId scout.id row = true := hasId_iff.mpr ⟨present, own⟩
  have inside := List.mem_filter.mpr ⟨same.mem_iff.mp member, has⟩
  have shown : (applyAll (fun _ => []) (BoyScout.placement.writes (.create scout)) .boyScout).filter
      (hasId scout.id) = [BoyScout.mapping.row scout] := shows.parents
  exact List.mem_singleton.mp (shown ▸ inside)

theorem reachable_writesBack {connection : Connection} (reached : Reachable connection) :
    (∀ id, (∀ rows, connection.committed.rowsOf? "boy_scout" = some rows →
        ∀ row ∈ rows, cell row 0 = .text id → BoyScout.Timely row) → BoyScout.mapping.WritesBack connection id) ∧
      ∀ id, GirlScout.mapping.WritesBack connection id := by
  obtain ⟨idle, rows, holds, sound, boys, girls⟩ := reached.genuine
  constructor
  · intro id timely
    refine Mapping.writesBack BoyScout.restores BoyScout.combines idle holds sound boys fun row member => ?_
    obtain ⟨others, listed⟩ := holds.rowsOf?
    obtain ⟨found, same⟩ := listed .boyScout
    rw [← Connection.committed_eq idle] at found
    exact timely _ found row (same.mem_iff.mpr member)
  · intro id
    exact Mapping.writesBack GirlScout.restores GirlScout.combines idle holds sound girls fun _ _ _ => trivial

/-- A scout who joined between two microseconds is created, read and updated with what was read. -/
theorem reachable_writesBack_joined :
    let fresh := { Connection.ofDatabase (Contents.database fun _ => []) with knowsTables := true }
    let scout : BoyScout := { id := "s-1", birthdate := some ⟨2012, 2, 29⟩, joinTime := some ⟨-5, 1999⟩,
                              badges := [.knots, .camping], campingTrips := [⟨2021, 6, 1⟩], bigUnsignedInt := 7 }
    let start := (BoyScout.mapping.performAll fresh [.create scout]).2
    let mask : FieldMask := ⟨["join_time", "badges"]⟩
    Reachable start ∧
      (BoyScout.mapping.performAll start [.read "s-1", .update scout.settled mask]).1 =
        [.ok (.found scout.settled), .ok .done] ∧
      start.committed.SameRows
        (BoyScout.mapping.performAll start [.read "s-1", .update scout.settled mask]).2.committed := by
  intro fresh scout start mask
  have storable : scout.Storable := by
    refine ⟨?_, ?_, by decide, by decide, by decide, by decide⟩
    · rintro date ⟨⟩
      decide
    · decide
  have reached : Reachable start := (Reachable.fresh Fresh.memory).performAll [.create scout]
  obtain ⟨found, only⟩ := Fresh.memory.reads storable (by decide)
  refine ⟨reached, (reachable_writesBack reached).1 "s-1" (fun rows stored row member own => ?_) scout.settled mask found⟩
  have same : row = BoyScout.mapping.row scout := only rows stored row member own
  rw [same]
  exact .inr ⟨_, rfl, by decide⟩

end EntityStore
