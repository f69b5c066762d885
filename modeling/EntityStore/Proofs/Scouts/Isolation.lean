import EntityStore.Proofs.Scouts.Lockstep
import EntityStore.Proofs.Scouts.Roster
import EntityStore.Proofs.Scouts.Sequences

/-! Calls about different scouts. A call leaves alone what does not belong to its id, and neither its outcome nor what it
makes of the rows of its id depends on anything else, so calls about different ids can trade places. -/

namespace EntityStore
open Engine

namespace Engine.Database
variable {about others : ScoutTable → Row → Prop} {first second third : Database}

/-- All tables of the scouts are in both databases, and the rows in question stand equally often in them. -/
def AgreeOn (about : ScoutTable → Row → Prop) (first second : Database) : Prop :=
  ∃ rows others : Rows, (∀ t, first.rowsOf? t.name = some (rows t) ∧ second.rowsOf? t.name = some (others t)) ∧
    ∀ t row, about t row → (rows t).count row = (others t).count row

theorem AgreeOn.symm (agree : first.AgreeOn about second) : second.AgreeOn about first := by
  obtain ⟨rows, others, listed, same⟩ := agree
  exact ⟨others, rows, fun t => (listed t).symm, fun t row known => (same t row known).symm⟩

theorem AgreeOn.mono (agree : first.AgreeOn about second) (fewer : ∀ t row, others t row → about t row) :
    first.AgreeOn others second := by
  obtain ⟨rows, others, listed, same⟩ := agree
  exact ⟨rows, others, listed, fun t row known => same t row (fewer t row known)⟩

theorem AgreeOn.trans (agree : first.AgreeOn about second) (further : second.AgreeOn about third) :
    first.AgreeOn about third := by
  obtain ⟨rows, middle, listed, same⟩ := agree
  obtain ⟨between, others, further, also⟩ := further
  have meet (t : ScoutTable) : middle t = between t :=
    Option.some.inj ((listed t).2.symm.trans (further t).1)
  refine ⟨rows, others, fun t => ⟨(listed t).1, (further t).2⟩, fun t row known => ?_⟩
  rw [same t row known, meet, also t row known]

theorem AgreeOn.union (agree : first.AgreeOn about second) (also : first.AgreeOn others second) :
    first.AgreeOn (fun t row => about t row ∨ others t row) second := by
  obtain ⟨rows, left, listed, same⟩ := agree
  obtain ⟨again, right, also, more⟩ := also
  have here (t : ScoutTable) : rows t = again t := Option.some.inj ((listed t).1.symm.trans (also t).1)
  have there (t : ScoutTable) : left t = right t := Option.some.inj ((listed t).2.symm.trans (also t).2)
  refine ⟨rows, left, listed, fun t row known => ?_⟩
  rcases known with known | known
  · exact same t row known
  · rw [here, there]
    exact more t row known

theorem AgreeOn.sameRows (agree : first.AgreeOn about second) (all : ∀ t row, about t row) : first.SameRows second := by
  obtain ⟨rows, others, listed, same⟩ := agree
  exact fun t => ⟨rows t, others t, (listed t).1, (listed t).2, List.perm_iff_count.mpr fun row => same t row (all t row)⟩

end Engine.Database

/-- A connection to a migrated database, which is exactly the tables of the migration with whatever rows, and no
transaction open. -/
def Migrated (connection : Connection) : Prop := connection.autocommit = true ∧ ∃ rows, Holds connection rows

theorem Holds.agreeOn {first second : Connection} {rows others : Rows} (holds : Holds first rows)
    (held : Holds second others) {about : ScoutTable → Row → Prop} :
    first.database.AgreeOn about second.database ↔ ∀ t row, about t row → (rows t).count row = (others t).count row := by
  obtain ⟨here, listed⟩ := holds.rowsOf?
  obtain ⟨there, found⟩ := held.rowsOf?
  constructor
  · rintro ⟨left, right, both, same⟩ t row known
    have one : here t = left t := Option.some.inj ((listed t).1.symm.trans (both t).1)
    have two : there t = right t := Option.some.inj ((found t).1.symm.trans (both t).2)
    rw [← (listed t).2.count_eq, ← (found t).2.count_eq, one, two]
    exact same t row known
  · intro same
    refine ⟨here, there, fun t => ⟨(listed t).1, (found t).1⟩, fun t row known => ?_⟩
    rw [(listed t).2.count_eq, (found t).2.count_eq]
    exact same t row known

theorem ScoutWrite.count_rest {write : ScoutWrite} {rows : Rows} (allowed : write.Allowed rows) {row : Row}
    (other : hasId write.id row = false) (first : List Row) : (write.change first).count row = first.count row := by
  have kept : (!hasId write.id row) = true := by rw [other]; rfl
  have counted (rows : List Row) : (rows.filter fun row => !hasId write.id row).count row = rows.count row :=
    List.count_filter kept
  rw [← counted, ScoutWrite.filter_rest allowed, counted]

namespace Placement
variable {E : Type} {mapping : Mapping E} (placement : Placement mapping)

theorem alike_iff {id : String} {rows others : Rows} :
    Alike placement.tables id rows others ↔
      ∀ t row, placement.Owns id t row → (rows t).count row = (others t).count row := by
  constructor
  · intro alike t row owns
    obtain ⟨inside, has⟩ := placement.owns_iff.mp owns
    have same := (alike t inside).count_eq row
    rwa [List.count_filter has, List.count_filter has] at same
  · intro same t inside
    refine List.perm_iff_count.mpr fun row => ?_
    by_cases has : hasId id row = true
    · rw [List.count_filter has, List.count_filter has]
      exact same t row (placement.owns_iff.mpr ⟨inside, has⟩)
    · have none (rows : List Row) : (rows.filter (hasId id)).count row = 0 :=
        List.count_eq_zero.mpr fun member => has (List.mem_filter.mp member).2
      rw [none, none]

section Frame
variable {σ : Type} {store : Store σ} {connection : σ → Connection} (wraps : Wraps store connection) (call : Call E)
  {state : σ} (migrated : Migrated (connection state))

include wraps migrated

/-- What does not belong to the subject of a call stays, and the database stays a migrated one. -/
theorem perform_frame : Migrated (connection (mapping.perform store call state).2.2) ∧
    (connection state).committed.AgreeOn (fun t row => ¬ placement.Owns (mapping.subject call) t row)
      (connection (mapping.perform store call state).2.2).committed := by
  obtain ⟨idle, rows, holds⟩ := migrated
  let rest (left : Rows) : Prop := ∀ t row, ¬ placement.Owns (mapping.subject call) t row →
    (rows t).count row = (left t).count row
  have step (left : Rows) : ∀ write ∈ placement.writes call, rest left → write.Allowed left → rest (write.apply left) := by
    intro write known kept allowed t row other
    refine (kept t row other).trans ?_
    by_cases own : t = write.table
    · subst own
      obtain ⟨subject, table⟩ := placement.writes_about call write known
      have inside : write.table ∈ placement.tables := List.mem_cons.mpr table
      rw [ScoutWrite.apply_table, ScoutWrite.count_rest allowed]
      refine Bool.eq_false_iff.mpr fun has => other ?_
      rw [subject] at has
      exact placement.owns_iff.mpr ⟨inside, has⟩
    · rw [ScoutWrite.apply_of_ne left own]
  obtain ⟨closed, left, held, kept⟩ := placement.perform_keeps call step wraps idle holds (fun _ _ _ => rfl)
  refine ⟨⟨closed, left, held⟩, ?_⟩
  rw [Connection.committed_eq idle, Connection.committed_eq closed]
  exact (holds.agreeOn held).mpr kept

/-- The outcome of a call and what it makes of the rows of its subject come from these rows, under any store that
answers the same requests alike where they are alike. -/
theorem perform_own {related : σ → σ → Prop}
    (step : ∀ request, request.IsPlanned (mapping.plan call) → ∀ state other, related state other →
      (store.answer request state).1 = (store.answer request other).1 ∧
        related (store.answer request state).2 (store.answer request other).2)
    (akin : ∀ state other, related state other →
      (connection state).Akin placement.tables (mapping.subject call) (connection other))
    {other : σ} (start : related state other) (also : Migrated (connection other)) :
    (mapping.perform store call state).1 = (mapping.perform store call other).1 ∧
      (mapping.perform store call state).2.1 = (mapping.perform store call other).2.1 ∧
      (connection (mapping.perform store call state).2.2).committed.AgreeOn (placement.Owns (mapping.subject call))
        (connection (mapping.perform store call other).2.2).committed := by
  obtain ⟨same, after⟩ := (mapping.keeps_operation call).lockstep step start
  obtain ⟨⟨closed, -⟩, -⟩ := placement.perform_frame wraps call migrated
  obtain ⟨⟨shut, -⟩, -⟩ := placement.perform_frame wraps call also
  have ended := akin _ _ after
  obtain ⟨rows, others, holds, held, alike⟩ := ended.holds
  rw [Connection.committed_eq closed, Connection.committed_eq shut, (mapping.perform_eq store call state).2,
    (mapping.perform_eq store call other).2, (mapping.perform_eq store call state).1,
    (mapping.perform_eq store call other).1, mapping.perform_events, mapping.perform_events]
  exact ⟨same, by rw [same], (holds.agreeOn held).mpr (placement.alike_iff.mp alike)⟩

end Frame

theorem akin_start {id : String} {first second : Connection} (migrated : Migrated first) (also : Migrated second)
    (agree : first.committed.AgreeOn (placement.Owns id) second.committed) :
    first.Akin placement.tables id second := by
  obtain ⟨idle, rows, holds⟩ := migrated
  obtain ⟨closed, others, held⟩ := also
  rw [Connection.committed_eq idle, Connection.committed_eq closed] at agree
  refine ⟨holds.steady, held.steady, ⟨rows, others, holds.stored, held.stored, ?_⟩, ?_⟩
  · exact placement.alike_iff.mpr ((holds.agreeOn held).mp agree)
  · rw [Option.isNone_iff_eq_none.mp idle, Option.isNone_iff_eq_none.mp closed]
    exact .none

section Own
variable (call : Call E) {first second : Connection} (migrated : Migrated first) (also : Migrated second)
  (agree : first.committed.AgreeOn (placement.Owns (mapping.subject call)) second.committed)

include migrated also agree

theorem perform_own_lapsing (tokens : Nat → Token) :
    let one := mapping.perform (Lapsing.store tokens) call ⟨.ofConnection first .live, 0⟩
    let two := mapping.perform (Lapsing.store tokens) call ⟨.ofConnection second .live, 0⟩
    one.1 = two.1 ∧ one.2.1 = two.2.1 ∧
      one.2.2.connection.committed.AgreeOn (placement.Owns (mapping.subject call)) two.2.2.connection.committed := by
  have start := placement.akin_start migrated also agree
  refine placement.perform_own (Lapsing.wraps tokens) call migrated
    (fun request planned state other akin => placement.lapsing_akin tokens planned akin) (fun state other akin => ?_)
    (.intro (.intro start .live (.ofRows [])) 0) also
  obtain ⟨⟨akin, -, -⟩, -⟩ := akin
  exact akin

theorem perform_own_live :
    let one := mapping.perform Attached.store call (.ofConnection first .live)
    let two := mapping.perform Attached.store call (.ofConnection second .live)
    one.1 = two.1 ∧ one.2.1 = two.2.1 ∧
      one.2.2.connection.committed.AgreeOn (placement.Owns (mapping.subject call)) two.2.2.connection.committed := by
  have start := placement.akin_start migrated also agree
  refine placement.perform_own Attached.wraps call migrated
    (fun request planned state other akin => placement.answer_akin planned akin) (fun state other akin => ?_)
    (.intro start .live (.ofRows [])) also
  obtain ⟨akin, -, -⟩ := akin
  exact akin

end Own
end Placement

namespace ScoutCall

def performOn {σ : Type} (store : Store σ) (state : σ) : ScoutCall → ScoutOutcome × List Event × σ
  | .boy call =>
      let (outcome, events, left) := BoyScout.mapping.perform store call state
      (.boy outcome, events, left)
  | .girl call =>
      let (outcome, events, left) := GirlScout.mapping.perform store call state
      (.girl outcome, events, left)

def Owns : ScoutCall → ScoutTable → Row → Prop
  | .boy call => BoyScout.placement.Owns (BoyScout.mapping.subject call)
  | .girl call => GirlScout.placement.Owns (GirlScout.mapping.subject call)

/-- Calls about different ids, or about scouts of different kinds. -/
def Apart : ScoutCall → ScoutCall → Prop
  | .boy first, .boy second => BoyScout.mapping.subject first ≠ BoyScout.mapping.subject second
  | .girl first, .girl second => GirlScout.mapping.subject first ≠ GirlScout.mapping.subject second
  | .boy _, .girl _ | .girl _, .boy _ => True

theorem Apart.symm {first second : ScoutCall} (apart : first.Apart second) : second.Apart first := by
  cases first <;> cases second
  case boy.boy => exact Ne.symm apart
  case girl.girl => exact Ne.symm apart
  all_goals trivial

theorem Apart.owns {first second : ScoutCall} (apart : first.Apart second) (t : ScoutTable) (row : Row)
    (owns : first.Owns t row) : ¬ second.Owns t row := by
  intro also
  cases first <;> cases second
  case boy.boy => exact apart (by injection owns.2.2.symm.trans also.2.2)
  case girl.girl => exact apart (by injection owns.2.2.symm.trans also.2.2)
  case boy.girl => exact kinds_apart t owns.1 also.1
  case girl.boy => exact kinds_apart t also.1 owns.1

/-- How a call keeps to the rows of its scout. -/
structure Isolated (call : ScoutCall) : Prop where
  others_stay : ∀ {σ : Type} {store : Store σ} {connection : σ → Connection}, Wraps store connection →
    ∀ state, Migrated (connection state) → (connection state).committed.AgreeOn (fun t row => ¬ call.Owns t row)
      (connection (call.performOn store state).2.2).committed
  /-- Where the rows of the scout are the same, so are the outcome and what becomes of these rows, whenever the token is
  cancelled or expires. -/
  own_rows_decide : ∀ (tokens : Nat → Token) (first second : Connection), Migrated first → Migrated second →
    first.committed.AgreeOn call.Owns second.committed →
    let one := call.performOn (Lapsing.store tokens) ⟨.ofConnection first .live, 0⟩
    let two := call.performOn (Lapsing.store tokens) ⟨.ofConnection second .live, 0⟩
    one.1 = two.1 ∧ one.2.1 = two.2.1 ∧
      one.2.2.connection.committed.AgreeOn call.Owns two.2.2.connection.committed
  trades_places : ∀ other : ScoutCall, call.Apart other → ∀ connection, Migrated connection →
    (performAll connection [other, call]).1 = (performAll connection [call, other]).1.reverse ∧
      (performAll connection [other, call]).2.committed.SameRows (performAll connection [call, other]).2.committed

theorem perform_frame (call : ScoutCall) {connection : Connection} (migrated : Migrated connection) :
    Migrated (call.perform connection).2 ∧
      connection.committed.AgreeOn (fun t row => ¬ call.Owns t row) (call.perform connection).2.committed := by
  have started : Migrated (Attached.connection (.ofConnection connection .live)) := migrated
  cases call with
  | boy call => exact BoyScout.placement.perform_frame Attached.wraps call started
  | girl call => exact GirlScout.placement.perform_frame Attached.wraps call started

theorem perform_own (call : ScoutCall) {first second : Connection} (migrated : Migrated first) (also : Migrated second)
    (agree : first.committed.AgreeOn call.Owns second.committed) :
    (call.perform first).1 = (call.perform second).1 ∧
      (call.perform first).2.committed.AgreeOn call.Owns (call.perform second).2.committed := by
  cases call with
  | boy call =>
    obtain ⟨same, -, left⟩ := BoyScout.placement.perform_own_live call migrated also agree
    exact ⟨congrArg ScoutOutcome.boy same, left⟩
  | girl call =>
    obtain ⟨same, -, left⟩ := GirlScout.placement.perform_own_live call migrated also agree
    exact ⟨congrArg ScoutOutcome.girl same, left⟩

theorem performAll_pair (connection : Connection) (first second : ScoutCall) :
    performAll connection [first, second] =
      ([(first.perform connection).1, (second.perform (first.perform connection).2).1],
        (second.perform (first.perform connection).2).2) := rfl

theorem perform_swap {first second : ScoutCall} (apart : first.Apart second) {connection : Connection}
    (migrated : Migrated connection) :
    (first.perform (second.perform connection).2).1 = (first.perform connection).1 ∧
      (first.perform (second.perform connection).2).2.committed.AgreeOn first.Owns
        (second.perform (first.perform connection).2).2.committed := by
  obtain ⟨early, stay⟩ := second.perform_frame migrated
  obtain ⟨late, -⟩ := first.perform_frame migrated
  obtain ⟨-, kept⟩ := second.perform_frame late
  have before := stay.mono apart.owns
  obtain ⟨same, left⟩ := first.perform_own early migrated before.symm
  exact ⟨same, left.trans (kept.mono apart.owns)⟩

/-- Every call keeps to the rows of its scout. -/
theorem isolated (call : ScoutCall) : call.Isolated where
  others_stay wraps state migrated := by
    cases call with
    | boy call => exact (BoyScout.placement.perform_frame wraps call migrated).2
    | girl call => exact (GirlScout.placement.perform_frame wraps call migrated).2
  own_rows_decide tokens first second migrated also agree := by
    cases call with
    | boy call =>
      obtain ⟨same, events, left⟩ := BoyScout.placement.perform_own_lapsing call migrated also agree tokens
      exact ⟨congrArg ScoutOutcome.boy same, events, left⟩
    | girl call =>
      obtain ⟨same, events, left⟩ := GirlScout.placement.perform_own_lapsing call migrated also agree tokens
      exact ⟨congrArg ScoutOutcome.girl same, events, left⟩
  trades_places other apart connection migrated := by
    obtain ⟨outcome, own⟩ := perform_swap apart migrated
    obtain ⟨also, theirs⟩ := perform_swap apart.symm migrated
    rw [performAll_pair, performAll_pair]
    refine ⟨by rw [outcome, ← also]; rfl, ?_⟩
    obtain ⟨early, first⟩ := call.perform_frame migrated
    obtain ⟨late, second⟩ := other.perform_frame migrated
    obtain ⟨-, third⟩ := other.perform_frame early
    obtain ⟨-, fourth⟩ := call.perform_frame late
    let neither (t : ScoutTable) (row : Row) : Prop := ¬ call.Owns t row ∧ ¬ other.Owns t row
    have forward := (first.mono (fun t row (free : neither t row) => free.1)).trans (third.mono fun t row free => free.2)
    have back := (second.mono (fun t row (free : neither t row) => free.2)).trans (fourth.mono fun t row free => free.1)
    refine ((own.union theirs.symm).union (back.symm.trans forward)).sameRows fun t row => ?_
    by_cases mine : call.Owns t row
    · exact .inl (.inl mine)
    · by_cases yours : other.Owns t row
      · exact .inl (.inr yours)
      · exact .inr ⟨mine, yours⟩

/-- Ids are told apart letter for letter. One scout is created and another, whose id differs in nothing but a capital
letter after a quote, is deleted. -/
theorem isolated_letters :
    let start := { Connection.ofDatabase (Contents.database fun _ => []) with knowsTables := true }
    let first : ScoutCall := .boy (.create { id := "o'neil", badges := [.camping] })
    let second : ScoutCall := .boy (.delete "o'Neil")
    (performAll start [second, first]).1 = (performAll start [first, second]).1.reverse ∧
      (performAll start [second, first]).2.committed.SameRows (performAll start [first, second]).2.committed := by
  intro start first second
  have apart : first.Apart second := by
    change "o'neil" ≠ "o'Neil"
    decide
  exact (isolated first).trades_places second apart start ⟨Fresh.memory.idle, _, Fresh.memory.holds⟩

end ScoutCall
end EntityStore
