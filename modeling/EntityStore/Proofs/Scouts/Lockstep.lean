import EntityStore.Proofs.Engine.Lapsing
import EntityStore.Proofs.Scouts.Belonging
import EntityStore.Proofs.Scouts.Invariant

/-! Two runs side by side. On databases whose rows of an id are alike, a call about the id hears the same at every step
and leaves rows of the id that are alike, however the other rows differ. -/

namespace EntityStore
open Engine ScoutWrite

/-- Whatever relates two stores and is kept by each planned request, with one answer from both, is kept by a run. -/
theorem Procedure.Keeps.lockstep {σ τ : Type} {store : Store σ} {companion : Store τ} {related : σ → τ → Prop}
    {plan : Plan} (step : ∀ request, request.IsPlanned plan → ∀ state other, related state other →
      (store.answer request state).1 = (companion.answer request other).1 ∧
        related (store.answer request state).2 (companion.answer request other).2)
    {procedure : Procedure α} (keeps : procedure.Keeps plan) {state : σ} {other : τ} (start : related state other) :
    (procedure.run store state).1 = (procedure.run companion other).1 ∧
      related (procedure.run store state).2 (procedure.run companion other).2 := by
  induction procedure generalizing state other with
  | done result => exact ⟨rfl, start⟩
  | call request next ih =>
    obtain ⟨same, after⟩ := step request keeps.1 state other start
    have later := ih (store.answer request state).1 (keeps.2 _) after
    rw [Procedure.run, Procedure.run, ← same]
    exact later

namespace Holds
variable {first second : Connection} {rows others : Rows} {t : ScoutTable} {id : String}

theorem parent_alike (holds : Holds first rows) (held : Holds second others) (parent : t ∉ ScoutTable.collections)
    (same : ((rows t).filter (hasId id)).Perm ((others t).filter (hasId id))) :
    ∃ found, first.query (.select t.name t.columnNames "id" none) [Codec.encodeText id] = (.ok found, first) ∧
      second.query (.select t.name t.columnNames "id" none) [Codec.encodeText id] = (.ok found, second) := by
  refine ⟨_, holds.query_parent parent id, ?_⟩
  rw [held.query_parent parent id]
  rcases filter_id (ScoutTable.key_parent parent ▸ holds.distinct t) id with none | ⟨row, one⟩
  · rw [none] at same ⊢
    rw [List.nil_perm.mp same]
  · rw [one] at same ⊢
    rw [List.singleton_perm.mp same]

theorem ordinal_present (holds : Holds first rows) (child : t ∈ ScoutTable.collections) :
    ∀ row ∈ rows t, cell row 1 ≠ .null := by
  intro row member
  have fits := holds.fits row member
  rw [Fits, ScoutTable.columns_collection child] at fits
  cases fits with
  | cons _ fits => cases fits with
    | cons second _ => exact second.2 rfl

/-- The rows of an id in a collection can be ordered by their ordinals in one way only. -/
theorem ordered_unique (holds : Holds first rows) (child : t ∈ ScoutTable.collections) {sorted other : List Row}
    (chosen : sorted.Perm ((rows t).filter (hasId id))) (same : sorted.Perm other)
    (rising : sorted.Pairwise fun a b => ((cell a 1).order (cell b 1)).isLE = true)
    (also : other.Pairwise fun a b => ((cell a 1).order (cell b 1)).isLE = true) : sorted = other := by
  refine same.eq_of_pairwise (fun a b here there below above => ?_) rising also
  obtain ⟨insideA, hasA⟩ := List.mem_filter.mp (chosen.mem_iff.mp here)
  obtain ⟨insideB, hasB⟩ := List.mem_filter.mp (chosen.mem_iff.mp (same.mem_iff.mpr there))
  have level : (cell a 1).order (cell b 1) = .eq := by
    rw [Value.order_swap (cell b 1)] at above
    cases order : (cell a 1).order (cell b 1) with
    | eq => rfl
    | lt => simp [order] at above
    | gt => simp [order] at below
  refine (holds.distinct t).eq_of_shared insideA insideB ?_
  rw [ScoutTable.key_collection child]
  intro index member
  simp only [List.mem_cons, List.not_mem_nil, or_false] at member
  rcases member with rfl | rfl
  · rw [(hasId_iff.mp hasA).2, (hasId_iff.mp hasB).2, Value.same_text]
  · exact Value.same_of_order (holds.ordinal_present child a insideA) level

theorem elements_alike (holds : Holds first rows) (held : Holds second others) (child : t ∈ ScoutTable.collections)
    (same : ((rows t).filter (hasId id)).Perm ((others t).filter (hasId id))) :
    ∃ found, first.query (.select t.name ["value"] "id" (some "ordinality")) [Codec.encodeText id] = (.ok found, first) ∧
      second.query (.select t.name ["value"] "id" (some "ordinality")) [Codec.encodeText id] = (.ok found, second) := by
  obtain ⟨sorted, chosen, rising, ran⟩ := holds.query_ordered child id
  obtain ⟨other, also, climbing, found⟩ := held.query_ordered child id
  have equal := holds.ordered_unique child chosen (chosen.trans (same.trans also.symm)) rising climbing
  exact ⟨_, ran, by rw [equal]; exact found⟩

theorem probe_alike (holds : Holds first rows) (held : Holds second others) (t : ScoutTable)
    (same : ((rows t).filter (hasId id)).Perm ((others t).filter (hasId id))) :
    ∃ found, first.query (.probe t.name "id") [Codec.encodeText id] = (.ok found, first) ∧
      second.query (.probe t.name "id") [Codec.encodeText id] = (.ok found, second) := by
  refine ⟨_, holds.query_probe t id, ?_⟩
  rw [held.query_probe t id, List.map_const', List.map_const', same.length_eq]

end Holds

/-- Two databases of the scouts whose rows of an id are alike. -/
def Engine.Database.Akin (tables : List ScoutTable) (id : String) (first second : Database) : Prop :=
  ∃ rows others : Rows,
    (∃ contents : Contents, first = contents.database ∧ ∀ t, Stores t.columns t.key (contents t) (rows t)) ∧
    (∃ contents : Contents, second = contents.database ∧ ∀ t, Stores t.columns t.key (contents t) (others t)) ∧
    Alike tables id rows others

/-- Two connections to such databases, which would go back to such databases. -/
structure Engine.Connection.Akin (tables : List ScoutTable) (id : String) (first second : Connection) : Prop where
  steady : first.Steady
  companion : second.Steady
  current : first.database.Akin tables id second.database
  saved : Option.Rel (Database.Akin tables id) first.saved second.saved

/-- Two transactions on such connections that see the same token and have fetched the same rows. -/
inductive Engine.Attached.Akin (tables : List ScoutTable) (id : String) : Attached → Attached → Prop where
  | intro {first second : Connection} (akin : first.Akin tables id second) (token : Token) (cursor : Cursor) :
      Attached.Akin tables id ⟨⟨first, token⟩, cursor⟩ ⟨⟨second, token⟩, cursor⟩

namespace Engine.Connection.Akin
variable {tables : List ScoutTable} {id : String} {first second : Connection}

theorem holds (akin : first.Akin tables id second) :
    ∃ rows others, Holds first rows ∧ Holds second others ∧ Alike tables id rows others := by
  obtain ⟨rows, others, stored, held, alike⟩ := akin.current
  exact ⟨rows, others, ⟨akin.steady, stored⟩, ⟨akin.companion, held⟩, alike⟩

theorem autocommit (akin : first.Akin tables id second) : first.autocommit = second.autocommit := by
  have saved := akin.saved
  unfold Connection.autocommit
  generalize first.saved = early at saved ⊢
  generalize second.saved = late at saved ⊢
  cases saved <;> rfl

theorem moved (akin : first.Akin tables id second) {rows others : Rows} {left right : Connection}
    (holds : Holds left rows) (held : Holds right others) (alike : Alike tables id rows others)
    (kept : left.saved = first.saved) (also : right.saved = second.saved) : left.Akin tables id right where
  steady := holds.steady
  companion := held.steady
  current := ⟨rows, others, holds.stored, held.stored, alike⟩
  saved := by
    rw [kept, also]
    exact akin.saved

theorem opened (akin : first.Akin tables id second) : first.opened.Akin tables id second.opened where
  steady := akin.steady.changed _ _ _
  companion := akin.companion.changed _ _ _
  current := akin.current
  saved := .some akin.current

theorem ended (akin : first.Akin tables id second) {left right : Database} (current : left.Akin tables id right) :
    Connection.Akin tables id
      { first with database := left, saved := none, deferring := false, pending := 0 }
      { second with database := right, saved := none, deferring := false, pending := 0 } where
  steady := akin.steady.ended _ _ _
  companion := akin.companion.ended _ _ _
  current := current
  saved := .none

theorem begun (akin : first.Akin tables id second) :
    ∃ answer left right, first.beginWriting = (answer, left) ∧ second.beginWriting = (answer, right) ∧
      left.Akin tables id right := by
  cases idle : first.autocommit with
  | true =>
    exact ⟨_, _, _, akin.steady.beginWriting idle, akin.companion.beginWriting (akin.autocommit.symm.trans idle),
      akin.opened⟩
  | false =>
    have busy := akin.autocommit.symm.trans idle
    refine ⟨.error .nestedTransaction, first, second, ?_, ?_, akin⟩
    · simp only [Connection.beginWriting, Connection.begin, idle, akin.steady.requireReadable]
      rfl
    · simp only [Connection.beginWriting, Connection.begin, busy, akin.companion.requireReadable]
      rfl

theorem committed (akin : first.Akin tables id second) :
    ∃ answer left right, first.commit = (answer, left) ∧ second.commit = (answer, right) ∧ left.Akin tables id right := by
  cases idle : first.autocommit with
  | true =>
    have closed := akin.autocommit.symm.trans idle
    refine ⟨.error (.noTransaction "commit"), first, second, ?_, ?_, akin⟩
    · simp only [Connection.commit, idle, if_true, akin.steady.statementEnd]
    · simp only [Connection.commit, closed, if_true, akin.companion.statementEnd]
  | false =>
    exact ⟨_, _, _, akin.steady.commit idle, akin.companion.commit (akin.autocommit.symm.trans idle),
      akin.ended akin.current⟩

theorem rolledBack (akin : first.Akin tables id second) :
    ∃ answer left right, first.rollback = (answer, left) ∧ second.rollback = (answer, right) ∧
      left.Akin tables id right := by
  have saved := akin.saved
  unfold Connection.rollback
  generalize first.saved = early at saved ⊢
  generalize second.saved = late at saved ⊢
  cases saved with
  | none => exact ⟨_, _, _, rfl, rfl, by rw [akin.steady.statementEnd, akin.companion.statementEnd]; exact akin⟩
  | some current => exact ⟨_, _, _, rfl, rfl, akin.ended current⟩

theorem guarded (akin : first.Akin tables id second) (token : Token) (cursor : Cursor)
    (respond : Except StatementError α → β) {step : Connection → Except EngineError α × Connection}
    {one two : Except EngineError α} {left right : Connection} (ran : step first = (one, left))
    (done : step second = (two, right)) (after : left.Akin tables id right)
    (same : respond (one.mapError .engine) = respond (two.mapError .engine)) :
    let taken (connection : Connection) : Except StatementError α × Attached :=
      Attached.after ⟨⟨connection, token⟩, cursor⟩ (Transaction.guarded ⟨connection, token⟩ step)
    respond (taken first).1 = respond (taken second).1 ∧ Attached.Akin tables id (taken first).2 (taken second).2 := by
  simp only [Attached.after, Transaction.guarded, ran, done]
  cases token.check with
  | error error => exact ⟨rfl, .intro akin token cursor⟩
  | ok _ => exact ⟨same, .intro after token cursor⟩

end Engine.Connection.Akin

/-- Two such transactions whose tokens have been looked at equally often. -/
inductive Engine.Lapsing.Akin (tables : List ScoutTable) (id : String) : Lapsing → Lapsing → Prop where
  | intro {first second : Attached} (akin : first.Akin tables id second) (looks : Nat) :
      Lapsing.Akin tables id ⟨first, looks⟩ ⟨second, looks⟩

namespace Placement
variable {E : Type} {mapping : Mapping E} (placement : Placement mapping) {call : Call E} {first second : Connection}

include placement

theorem execute_akin {statement : Statement} {parameters : List Value}
    (planned : (statement, parameters) ∈ mapping.writes call)
    (akin : first.Akin placement.tables (mapping.subject call) second) :
    ∃ one two left right, first.execute statement parameters = (one, left) ∧
      second.execute statement parameters = (two, right) ∧
      one.map (fun _ => ()) = two.map (fun _ => ()) ∧ left.Akin placement.tables (mapping.subject call) right := by
  rw [placement.writes_eq] at planned
  obtain ⟨write, known, same⟩ := List.mem_map.mp planned
  cases same
  have proper := placement.proper call write known
  obtain ⟨rows, others, holds, held, alike⟩ := akin.holds
  obtain ⟨subject, -⟩ := placement.writes_about call write known
  rw [← subject] at alike akin ⊢
  obtain ⟨allowed, refused⟩ := write.allowed_congr proper (alike.subset (placement.reach_writes call write known))
    (holds.distinct _) (held.distinct _)
  have kept := (Connection.execute_within holds.steady.statementEnd write.statement write.parameters).saved
  have also := (Connection.execute_within held.steady.statementEnd write.statement write.parameters).saved
  rcases holds.write proper with ⟨count, left, ran, through, holds⟩ | ⟨left, ran, stopped, holds⟩ <;>
    rcases held.write proper with ⟨number, right, done, passed, held⟩ | ⟨right, done, halted, held⟩ <;>
      rw [ran] at kept <;> rw [done] at also
  · exact ⟨_, _, left, right, ran, done, rfl, akin.moved holds held (apply_alike alike) kept also⟩
  · exact absurd (allowed.mp through) halted
  · exact absurd (allowed.mpr passed) stopped
  · exact ⟨_, _, left, right, ran, done, by rw [refused], akin.moved holds held alike kept also⟩

theorem query_akin {statement : Statement} {parameters : List Value}
    (planned : (statement, parameters) ∈ mapping.queries call)
    (akin : first.Akin placement.tables (mapping.subject call) second) :
    ∃ found, first.query statement parameters = (.ok found, first) ∧
      second.query statement parameters = (.ok found, second) := by
  obtain ⟨rows, others, holds, held, alike⟩ := akin.holds
  have parent := alike placement.parent List.mem_cons_self
  cases call with
  | create entity => cases planned
  | read id =>
    rcases List.mem_cons.mp planned with same | planned
    · cases same
      have found := holds.parent_alike held placement.parental parent
      rw [← placement.table, ← placement.names, ← placement.idColumn_eq.1] at found
      exact found
    · obtain ⟨collection, member, same⟩ := List.mem_map.mp planned
      cases same
      rw [placement.collections] at member
      obtain ⟨child, known, rfl⟩ := List.mem_map.mp member
      exact holds.elements_alike held (placement.inside child known)
        (alike child.2 (List.mem_cons_of_mem _ (List.mem_map_of_mem known)))
  | update entity mask =>
    cases List.mem_singleton.mp planned
    have found := holds.probe_alike held placement.parent parent
    rw [← placement.table, ← placement.idColumn_eq.1] at found
    exact found
  | delete id => cases planned

/-- Whatever a call requests, both answer it alike. -/
theorem answer_akin {request : Request} (planned : request.IsPlanned (mapping.plan call)) {state other : Attached}
    (akin : Attached.Akin placement.tables (mapping.subject call) state other) :
    (Attached.answer request state).1 = (Attached.answer request other).1 ∧
      Attached.Akin placement.tables (mapping.subject call) (Attached.answer request state).2
        (Attached.answer request other).2 := by
  obtain ⟨akin, token, cursor⟩ := akin
  cases request with
  | begin =>
    obtain ⟨answer, left, right, ran, done, after⟩ := akin.begun
    exact akin.guarded token cursor (fun outcome => outcome) ran done after rfl
  | execute statement parameters =>
    obtain ⟨one, two, left, right, ran, done, same, after⟩ := placement.execute_akin planned akin
    let step (connection : Connection) := connection.execute statement parameters
    have ran : step _ = (one, left) := ran
    have done : step _ = (two, right) := done
    refine akin.guarded token cursor (Except.map fun _ => ()) ran done after ?_
    cases one <;> cases two <;> cases same <;> rfl
  | query statement parameters =>
    simp only [Attached.answer, Attached.query, Transaction.query, Transaction.guarded]
    obtain ⟨found, ran, done⟩ := placement.query_akin planned akin
    cases token.check with
    | error error => exact ⟨rfl, .intro akin token cursor⟩
    | ok _ =>
      rw [ran, done]
      exact ⟨rfl, .intro akin token (.ofRows found)⟩
  | advance limit => exact ⟨rfl, .intro akin token (cursor.advance token).2⟩
  | scan | close | check => exact ⟨rfl, .intro akin token cursor⟩
  | commit =>
    obtain ⟨answer, left, right, ran, done, after⟩ := akin.committed
    exact akin.guarded token cursor (fun outcome => outcome) ran done after rfl
  | rollback =>
    obtain ⟨answer, left, right, ran, done, after⟩ := akin.rolledBack
    simp only [Attached.answer, Attached.after, Transaction.rollback, ran, done, akin.autocommit]
    split
    · exact ⟨rfl, .intro akin token cursor⟩
    · exact ⟨rfl, .intro after token cursor⟩

theorem lapsing_akin (tokens : Nat → Token) {request : Request} (planned : request.IsPlanned (mapping.plan call))
    {state other : Lapsing} (akin : Lapsing.Akin placement.tables (mapping.subject call) state other) :
    (Lapsing.answer tokens request state).1 = (Lapsing.answer tokens request other).1 ∧
      Lapsing.Akin placement.tables (mapping.subject call) (Lapsing.answer tokens request state).2
        (Lapsing.answer tokens request other).2 := by
  obtain ⟨⟨akin, token, cursor⟩, looks⟩ := akin
  obtain ⟨same, after⟩ := placement.answer_akin planned (.intro akin (tokens looks) cursor)
  unfold Lapsing.answer
  dsimp only [Lapsing.facing]
  rw [same]
  exact ⟨rfl, .intro after _⟩

end Placement
end EntityStore
