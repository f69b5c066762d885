import EntityStore.Proofs.Agreement
import EntityStore.Proofs.Scouts.Sequences

/-! How long collections may be. One statement writes all elements of a collection, with three parameters for each of
them, and the engine takes only so many. A call is done where it issues no statement with more, and is refused at the
first that has more. -/

namespace EntityStore
open Engine ScoutWrite

/-- A statement was refused for the number of its parameters. -/
def CrudError.TooManyParameters (error : CrudError) : Prop :=
  ∃ text offset, error = .statement (.engine (.located .tooManyVariables text offset))

namespace Mapping
variable {E : Type} (mapping : Mapping E)

/-- No statement that a call can issue has more parameters than the engine takes. -/
def WithinLimit (call : Call E) : Prop := ∀ issued ∈ mapping.issued call, issued.2.length ≤ variableLimit

/-- A call under a live token is done if all its statements are within the limit. If one is not, the call is refused for
it and leaves the rows as they were. -/
structure Limited (connection : Connection) (rows : Rows) (call : Call E) : Prop where
  done : mapping.WithinLimit call →
    (mapping.perform Attached.store call (.ofConnection connection .live)).1 = .ok .done
  refused : ¬ mapping.WithinLimit call → ∃ error,
    (mapping.perform Attached.store call (.ofConnection connection .live)).1 = .error error ∧ error.TooManyParameters
  kept : ¬ mapping.WithinLimit call →
    (mapping.perform Attached.store call (.ofConnection connection .live)).2.2.transaction.connection.autocommit = true ∧
      Holds (mapping.perform Attached.store call (.ofConnection connection .live)).2.2.transaction.connection rows

end Mapping

namespace Operation

theorem executeAll_within (writes : List Write) {connection : Connection} (opened : connection.autocommit = false)
    (cursor : Cursor) :
    ∃ outcome left, (executeAll writes).result Attached.store (.live connection cursor) = (outcome, .live left cursor) ∧
      connection.Within left := by
  induction writes generalizing connection with
  | nil => exact ⟨.ok (), connection, rfl, .refl connection⟩
  | cons write rest ih =>
    have within := Connection.execute_within (Connection.statementEnd_eq opened) write.1 write.2
    rw [executeAll, result_bind]
    rcases ran : connection.execute write.1 write.2 with ⟨error | count, after⟩
    · rw [ran] at within
      rw [result_execute_error ran]
      exact ⟨_, after, rfl, within⟩
    · rw [ran] at within
      rw [result_execute ran]
      obtain ⟨outcome, left, done, later⟩ := ih (within.autocommit.trans opened)
      exact ⟨outcome, left, done, within.trans later⟩

end Operation

namespace ScoutWrite

def Short : ScoutWrite → Prop
  | .fill _ _ _ others => (others.length + 1) * 3 ≤ variableLimit
  | .insert .. | .update .. | .delete .. => True

/-- Writes that run into one that is too long, after others that are let through. -/
inductive Blocked (rows : Rows) : List ScoutWrite → Prop where
  | intro {before later : List ScoutWrite} {t : ScoutTable} {id : String} {first : Value} {others : List Value}
      (allowed : AllowedAll rows before) (long : ¬ (ScoutWrite.fill t id first others).Short) :
      Blocked rows (before ++ .fill t id first others :: later)

theorem length_elementParameters (id : Value) (start : Nat) (values : List Value) :
    (Mapping.elementParameters id start values).length = values.length * 3 := by
  induction values generalizing start with
  | nil => rfl
  | cons value rest ih =>
    simp only [Mapping.elementParameters, List.length_cons, ih]
    omega

end ScoutWrite

namespace Holds
variable {connection : Connection} {rows : Rows}

theorem executeAll_blocked {writes : List ScoutWrite} (holds : Holds connection rows)
    (proper : ∀ write ∈ writes, write.Proper) (blocked : Blocked rows writes)
    (opened : connection.autocommit = false) (cursor : Cursor) :
    ∃ error left, (Operation.executeAll (writes.map toWrite)).result Attached.store (.live connection cursor) =
        (.error error, .live left cursor) ∧ error.TooManyParameters ∧ connection.Within left := by
  obtain ⟨outcome, left, ran, within⟩ := Operation.executeAll_within (writes.map toWrite) opened cursor
  cases blocked with
  | @intro before later t id first others allowed long =>
    obtain ⟨child, -⟩ := proper (.fill t id first others) (by simp)
    obtain ⟨middle, done, -, -⟩ :=
      holds.executeAll (fun write member => proper write (List.mem_append_left _ member)) allowed opened cursor
    have excess : variableLimit < (Statement.insertRows t.name t.columnNames others.length).arity := by
      rw [Statement.arity, ScoutTable.columnNames, List.length_map, ScoutTable.columns_length child]
      exact Nat.lt_of_not_le long
    obtain ⟨offset, unworded⟩ := requireText_excess t.zeroFree excess
    have refused := Connection.execute_unworded middle
      (Mapping.elementParameters (Codec.encodeText id) 0 (first :: others)) unworded
    have blocked := ran
    rw [List.map_append, List.map_cons, Operation.executeAll_append, Operation.executeAll] at blocked
    have blocked := (Operation.result_bind _ _ _ _).symm.trans blocked
    rw [done] at blocked
    have blocked := (Operation.result_bind _ _ _ _).symm.trans blocked
    simp only [toWrite, statement, parameters] at blocked
    rw [Operation.result_execute_error refused] at blocked
    cases blocked
    exact ⟨_, _, ran, ⟨_, offset, rfl⟩, within⟩

end Holds

private theorem exists_first {short : String × ScoutTable → Prop} {children : List (String × ScoutTable)}
    (long : ¬ ∀ child ∈ children, short child) :
    ∃ early child late, children = early ++ child :: late ∧ (∀ other ∈ early, short other) ∧ ¬ short child := by
  classical
  have some : (children.find? fun child => decide (¬ short child)).isSome = true := by
    rw [List.find?_isSome]
    simpa using long
  obtain ⟨child, found⟩ := Option.isSome_iff_exists.mp some
  obtain ⟨fails, early, late, split, before⟩ := List.find?_eq_some_iff_append.mp found
  exact ⟨early, child, late, split, by simpa using before, by simpa using fails⟩

namespace Placement
variable {E : Type} {mapping : Mapping E} (placement : Placement mapping) {connection : Connection} {rows : Rows}
  {entity : E} {mask : FieldMask}

/-- No collection that a mask includes is too long for one statement. -/
def Brief (mask : FieldMask) (entity : E) : Prop :=
  ∀ child ∈ placement.children, mask.included child.1 = true →
    (placement.elements entity child.2).length * 3 ≤ variableLimit

theorem fill_short (entity : E) (child : String × ScoutTable) :
    (∀ write ∈ placement.fill entity child, write.Short) ↔
      (placement.elements entity child.2).length * 3 ≤ variableLimit := by
  unfold fill fills
  cases placement.elements entity child.2 with
  | nil => simp
  | cons first others => exact List.forall_mem_singleton

theorem create_short (entity : E) :
    (∀ write ∈ placement.writes (.create entity), write.Short) ↔ placement.Brief .all entity := by
  rw [writes, List.forall_mem_cons, List.forall_mem_flatMap]
  constructor
  · rintro ⟨-, short⟩ child member -
    exact (placement.fill_short entity child).mp (short child member)
  · intro brief
    exact ⟨trivial, fun child member => (placement.fill_short entity child).mpr (brief child member rfl)⟩

theorem refill_short (entity : E) (mask : FieldMask) (child : String × ScoutTable) :
    (∀ write ∈ placement.refill entity mask child, write.Short) ↔
      (mask.included child.1 = true → (placement.elements entity child.2).length * 3 ≤ variableLimit) := by
  unfold refill
  split
  next included =>
    rw [refills, List.forall_mem_cons, ← placement.fill_short]
    exact ⟨fun short _ => short.2, fun short => ⟨trivial, short included⟩⟩
  next excluded => simp [excluded]

theorem update_short (entity : E) (mask : FieldMask) :
    (∀ write ∈ placement.writes (.update entity mask), write.Short) ↔ placement.Brief mask entity := by
  have columns : ∀ write ∈ placement.columnWrites entity mask, write.Short := by
    unfold columnWrites
    split
    · exact List.forall_mem_nil _
    · exact List.forall_mem_singleton.mpr trivial
  rw [writes, List.forall_mem_append, List.forall_mem_flatMap]
  constructor
  · rintro ⟨-, short⟩ child member
    exact (placement.refill_short entity mask child).mp (short child member)
  · intro brief
    exact ⟨columns, fun child member => (placement.refill_short entity mask child).mpr (brief child member)⟩

theorem parameters_short {write : ScoutWrite} (planned : placement.Plans write) :
    write.parameters.length ≤ variableLimit ↔ write.Short := by
  have limit : variableLimit = 32766 := rfl
  have narrow (t : ScoutTable) : t.columns.length ≤ 12 := by cases t <;> decide
  have scalars (entity : E) : (mapping.encodeColumns entity).length < 12 := by
    have full := (placement.accepted entity).length_eq
    have whole := congrArg List.length placement.parent.columns_eq
    have few := narrow placement.parent
    rw [List.length_cons] at whole
    omega
  cases planned with
  | insert entity =>
    have few := scalars entity
    refine iff_of_true ?_ trivial
    simp only [parameters, List.length_cons]
    omega
  | fill entity member same =>
    rw [parameters, length_elementParameters, List.length_cons]
    exact Iff.rfl
  | update entity mask =>
    have few := scalars entity
    have choices := congrArg List.length (placement.choices_values entity mask)
    rw [List.length_map] at choices
    refine iff_of_true ?_ trivial
    simp only [parameters, List.length_append, Choice.length_parameters, List.length_singleton]
    omega
  | clear member id => exact iff_of_true (Nat.le_of_lt (by decide : 1 < variableLimit)) trivial
  | delete id => exact iff_of_true (Nat.le_of_lt (by decide : 1 < variableLimit)) trivial

theorem withinLimit_iff (call : Call E) :
    mapping.WithinLimit call ↔ ∀ write ∈ placement.writes call, write.Short := by
  have queries : ∀ query ∈ mapping.queries call, query.2.length ≤ variableLimit := by
    intro query member
    have single : query.2.length = 1 := by
      cases call with
      | create entity => cases member
      | read id =>
        rcases List.mem_cons.mp member with rfl | member
        · rfl
        · obtain ⟨collection, -, rfl⟩ := List.mem_map.mp member
          rfl
      | update entity mask => rw [List.mem_singleton.mp member]; rfl
      | delete id => cases member
    rw [single]
    decide
  rw [Mapping.WithinLimit, Mapping.issued, List.forall_mem_append, placement.writes_eq, List.forall_mem_map]
  constructor
  · intro within write member
    exact (placement.parameters_short (placement.plans call write member)).mp (within.2 write member)
  · intro short
    refine ⟨queries, fun write member => ?_⟩
    exact (placement.parameters_short (placement.plans call write member)).mpr (short write member)

theorem long_fill {child : String × ScoutTable} (long : ¬ (placement.elements entity child.2).length * 3 ≤ variableLimit) :
    ∃ first others, placement.fill entity child = [.fill child.2 (mapping.id entity) first others] ∧
      ¬ (ScoutWrite.fill child.2 (mapping.id entity) first others).Short := by
  unfold fill fills
  cases same : placement.elements entity child.2 with
  | nil =>
    rw [same] at long
    exact absurd (Nat.zero_le _) long
  | cons first others =>
    rw [same] at long
    exact ⟨first, others, rfl, long⟩

theorem blocked_create (present : mapping.id entity ≠ "") (holds : Holds connection rows)
    (shows : placement.Shows rows (mapping.id entity) none) (long : ¬ placement.Brief .all entity) :
    Blocked rows (placement.writes (.create entity)) := by
  obtain ⟨early, child, late, split, before, found⟩ := exists_first long
  have some : early.Sublist placement.children := by
    rw [split]
    exact List.sublist_append_left _ _
  obtain ⟨first, others, same, overlong⟩ := placement.long_fill fun short => found fun _ => short
  have free : ∀ child ∈ placement.children, (rows child.2).filter (hasId (mapping.id entity)) = [] :=
    fun child member => List.perm_nil.mp (shows.elements child member)
  have allowed := placement.inserted_allowed present holds.distinct shows.parents free some
    fun child member => before child member rfl
  have parts : placement.writes (.create entity) =
      (.insert placement.parent (mapping.id entity) (mapping.encodeColumns entity) ::
        early.flatMap (placement.fill entity)) ++
          .fill child.2 (mapping.id entity) first others :: late.flatMap (placement.fill entity) := by
    rw [writes, split, List.flatMap_append, List.flatMap_cons, same]
    rfl
  rw [parts]
  exact .intro allowed overlong

theorem blocked_update (holds : Holds connection rows)
    (stored : ∃ row ∈ rows placement.parent, hasId (mapping.id entity) row = true)
    (long : ¬ placement.Brief mask entity) : Blocked rows (placement.writes (.update entity mask)) := by
  obtain ⟨early, child, late, split, before, found⟩ := exists_first long
  have member : child ∈ placement.children := by
    rw [split]
    exact List.mem_append_right _ List.mem_cons_self
  have some : early.Sublist placement.children := by
    rw [split]
    exact List.sublist_append_left _ _
  rw [Classical.not_imp] at found
  obtain ⟨included, found⟩ := found
  obtain ⟨first, others, same, overlong⟩ := placement.long_fill found
  have refill : placement.refill entity mask child =
      [.delete child.2 (mapping.id entity), .fill child.2 (mapping.id entity) first others] := by
    unfold Placement.refill
    rw [if_pos included, refills]
    exact congrArg (List.cons _) same
  have allowed := placement.replaced_allowed mask stored holds.distinct some before
  have cleared : AllowedAll rows ((placement.columnWrites entity mask ++ early.flatMap (placement.refill entity mask)) ++
      [.delete child.2 (mapping.id entity)]) :=
    allowedAll_append allowed ⟨clear_allowed _ (placement.inside child member) _, trivial⟩
  have parts : placement.writes (.update entity mask) =
      ((placement.columnWrites entity mask ++ early.flatMap (placement.refill entity mask)) ++
        [.delete child.2 (mapping.id entity)]) ++
          .fill child.2 (mapping.id entity) first others :: late.flatMap (placement.refill entity mask) := by
    rw [writes, split, List.flatMap_append, List.flatMap_cons, refill]
    simp only [List.append_assoc, List.cons_append, List.nil_append]
  rw [parts]
  exact .intro cleared overlong

/-- Calls that are done when their writes are short, and run into one that is long when they are not. -/
theorem limited {call : Call E} {α : Type} {body : Operation α} (reply : α → Reply E)
    (idle : connection.autocommit = true) (holds : Holds connection rows)
    (same : mapping.operation call = do return reply (← Operation.inTransaction body))
    (done : (∀ write ∈ placement.writes call, write.Short) → placement.Done connection rows call .done)
    (blocked : ¬ (∀ write ∈ placement.writes call, write.Short) → ∃ error left last,
      body.result Attached.store (.live connection.opened (.ofRows [])) = (.error error, .live left last) ∧
        error.TooManyParameters ∧ Connection.Within connection.opened left) :
    mapping.Limited connection rows call := by
  have failed (long : ¬ mapping.WithinLimit call) :
      let ran := mapping.perform Attached.store call (.ofConnection connection .live)
      (∃ error, ran.1 = .error error ∧ error.TooManyParameters) ∧
        ran.2.2.connection.autocommit = true ∧ Holds ran.2.2.connection rows := by
    rw [placement.withinLimit_iff] at long
    obtain ⟨error, left, last, ran, many, within⟩ := blocked long
    obtain ⟨outcome, closed, held⟩ := refused_perform reply idle holds same ran within
    exact ⟨⟨error, outcome, many⟩, closed, held⟩
  refine ⟨fun within => ?_, fun long => (failed long).1, fun long => (failed long).2⟩
  exact (done ((placement.withinLimit_iff call).mp within)).perform.1

theorem limited_create (idle : connection.autocommit = true) (holds : Holds connection rows)
    (present : mapping.id entity ≠ "") (shows : placement.Shows rows (mapping.id entity) none) :
    mapping.Limited connection rows (.create entity) := by
  refine placement.limited (fun _ => .done) idle holds rfl (fun short => ?_) fun long => ?_
  · have brief := (placement.create_short entity).mp short
    have few : placement.Few entity := fun child member => brief child member rfl
    exact placement.done_create idle holds (shows.create present holds.distinct few).1
  · rw [placement.create_short] at long
    obtain ⟨error, left, ran, many, within⟩ := holds.opened.executeAll_blocked (placement.proper (.create entity))
      (placement.blocked_create present holds shows long) rfl (.ofRows [])
    rw [← placement.writes_eq, ← Mapping.insertEntity_eq] at ran
    exact ⟨error, left, _, ran, many, within⟩

theorem limited_update (idle : connection.autocommit = true) (holds : Holds connection rows)
    (stored : ∃ row ∈ rows placement.parent, hasId (mapping.id entity) row = true) (mask : FieldMask) :
    mapping.Limited connection rows (.update entity mask) := by
  obtain ⟨old, single⟩ := ScoutTable.single_id placement.parental holds stored
  refine placement.limited (fun _ => .done) idle holds rfl (fun short => ?_) fun long => ?_
  · have brief := (placement.update_short entity mask).mp short
    exact placement.done_update idle holds single
      (placement.replaced_allowed mask stored holds.distinct (List.Sublist.refl _) brief)
  · rw [placement.update_short] at long
    obtain ⟨error, left, ran, many, within⟩ := holds.opened.executeAll_blocked
      (placement.proper (.update entity mask)) (placement.blocked_update holds stored long) rfl ⟨[], some [.null]⟩
    rw [← placement.updateEntity_some single holds.opened mask (.ofRows [])] at ran
    exact ⟨error, left, _, ran, many, within⟩

end Placement

def BoyScout.lengths (scout : BoyScout) : List (String × Nat) :=
  [("badges", scout.badges.length), ("favorite_songs", scout.favoriteSongs.length),
    ("camping_trips", scout.campingTrips.length), ("mask", scout.mask.length)]

theorem BoyScout.brief_iff (mask : FieldMask) (scout : BoyScout) : BoyScout.placement.Brief mask scout ↔
    ∀ field ∈ scout.lengths, mask.included field.1 = true → field.2 ≤ 10922 := by
  have limit : variableLimit = 32766 := rfl
  have enough (count : Nat) : count * 3 ≤ variableLimit ↔ count ≤ 10922 := by omega
  simp only [Placement.Brief, placement, elements, lengths, List.forall_mem_cons, List.length_map, enough]
  simp

/-- How many elements a scout can be written with. A create writes all collections, and an update those that its mask
includes. -/
theorem writes_limited {connection : Connection} {rows : Rows} (idle : connection.autocommit = true)
    (holds : Holds connection rows) :
    (∀ scout : BoyScout, scout.id ≠ "" → BoyScout.placement.Shows rows scout.id none →
      BoyScout.mapping.Limited connection rows (.create scout)) ∧
    (∀ (scout : BoyScout) (mask : FieldMask), (∃ row ∈ rows .boyScout, hasId scout.id row = true) →
      BoyScout.mapping.Limited connection rows (.update scout mask)) ∧
    (∀ scout : BoyScout, BoyScout.mapping.WithinLimit (.create scout) ↔ ∀ field ∈ scout.lengths, field.2 ≤ 10922) ∧
    (∀ (scout : BoyScout) (mask : FieldMask), BoyScout.mapping.WithinLimit (.update scout mask) ↔
      ∀ field ∈ scout.lengths, mask.included field.1 = true → field.2 ≤ 10922) ∧
    (∀ scout : GirlScout, scout.id ≠ "" → GirlScout.placement.Shows rows scout.id none →
      GirlScout.mapping.WithinLimit (.create scout) ∧ GirlScout.mapping.Limited connection rows (.create scout)) ∧
    (∀ (scout : GirlScout) (mask : FieldMask), (∃ row ∈ rows .girlScout, hasId scout.id row = true) →
      GirlScout.mapping.WithinLimit (.update scout mask) ∧
        GirlScout.mapping.Limited connection rows (.update scout mask)) := by
  have brief (mask : FieldMask) (scout : GirlScout) : GirlScout.placement.Brief mask scout :=
    fun child member => absurd member List.not_mem_nil
  refine ⟨fun scout present shows => ?_, fun scout mask stored => ?_, fun scout => ?_, fun scout mask => ?_,
    fun scout present shows => ⟨?_, ?_⟩, fun scout mask stored => ⟨?_, ?_⟩⟩
  · exact BoyScout.placement.limited_create idle holds present shows
  · exact BoyScout.placement.limited_update idle holds stored mask
  · rw [BoyScout.placement.withinLimit_iff, Placement.create_short, BoyScout.brief_iff]
    exact forall₂_congr fun field _ => ⟨fun short => short rfl, fun short _ => short⟩
  · rw [BoyScout.placement.withinLimit_iff, Placement.update_short, BoyScout.brief_iff]
  · exact (GirlScout.placement.withinLimit_iff _).mpr ((GirlScout.placement.create_short scout).mpr (brief _ scout))
  · exact GirlScout.placement.limited_create idle holds present shows
  · exact (GirlScout.placement.withinLimit_iff _).mpr ((GirlScout.placement.update_short scout mask).mpr (brief _ scout))
  · exact GirlScout.placement.limited_update idle holds stored mask

/-- An update can be refused for what a mask includes, and done under another mask. -/
theorem writes_limited_masked :
    let fresh := { Connection.ofDatabase (Contents.database fun _ => []) with knowsTables := true }
    let scout : BoyScout := { id := "s-1", badges := [.camping, .knots], fullName := "Ann" }
    let girl : GirlScout := ⟨"s-1"⟩
    let start := (GirlScout.mapping.performAll (BoyScout.mapping.performAll fresh [.create scout]).2 [.create girl]).2
    let singer : BoyScout := { scout with favoriteSongs := List.replicate 10923 "Taps" }
    start.autocommit = true ∧ (∃ rows, Holds start rows ∧ ∃ row ∈ rows .boyScout, hasId singer.id row = true) ∧
      (∃ error, (BoyScout.mapping.perform Attached.store (.update singer ⟨["favorite_songs"]⟩)
        (.ofConnection start .live)).1 = .error error ∧ error.TooManyParameters) ∧
      (BoyScout.mapping.perform Attached.store (.update singer ⟨["badges", "rank"]⟩)
        (.ofConnection start .live)).1 = .ok .done := by
  intro fresh scout girl start singer
  have opened : Fresh fresh := Fresh.memory
  have compact : scout.Compact := ⟨by decide, by decide, by decide, by decide⟩
  obtain ⟨idle, rows, holds, stored, -⟩ := opened.stores compact (by decide) (show girl.id ≠ "" by decide)
  obtain ⟨-, updates, -, within, -⟩ := writes_limited idle holds
  have lengths : singer.lengths = [("badges", 2), ("favorite_songs", 10923), ("camping_trips", 0), ("mask", 0)] := by
    rw [BoyScout.lengths, List.length_replicate]
    rfl
  refine ⟨idle, ⟨rows, holds, stored⟩, (updates singer _ stored).refused ?_, (updates singer _ stored).done ?_⟩
  · rw [within, lengths]
    decide
  · rw [within, lengths]
    decide

/-- A scout with one song too many cannot be created. -/
theorem create_refused_songs :
    let fresh := { Connection.ofDatabase (Contents.database fun _ => []) with knowsTables := true }
    let scout : BoyScout := { id := "s-1", favoriteSongs := List.replicate 10923 "a" }
    Fresh fresh ∧ (∃ issued ∈ BoyScout.mapping.issued (.create scout), variableLimit < issued.2.length) ∧
      ∃ error, (BoyScout.mapping.perform Attached.store (.create scout) (.ofConnection fresh .live)).1 = .error error ∧
        error.TooManyParameters := by
  intro fresh scout
  have opened : Fresh fresh := Fresh.memory
  have lengths : scout.lengths = [("badges", 0), ("favorite_songs", 10923), ("camping_trips", 0), ("mask", 0)] := by
    rw [BoyScout.lengths, List.length_replicate]
    rfl
  have long : ¬ BoyScout.mapping.WithinLimit (.create scout) := by
    rw [BoyScout.placement.withinLimit_iff, Placement.create_short, BoyScout.brief_iff, lengths]
    decide
  have present : BoyScout.mapping.id scout ≠ "" := by decide
  have limited := BoyScout.placement.limited_create opened.idle opened.holds present
    ⟨fun _ member => (by cases member), rfl, fun _ _ => .refl _⟩
  refine ⟨opened, ?_, limited.refused long⟩
  simpa [Mapping.WithinLimit] using long

end EntityStore
