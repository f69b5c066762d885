import EntityStore.Proofs.Scouts.Answers
import EntityStore.Proofs.Scouts.Invariant

/-! Calls on a migrated database are calls on two finite maps, one of boy scouts and one of girl scouts, however many
there are and in whatever order. -/

namespace EntityStore
open Engine

/-- The tables hold what is kept, each entity as it was written, and nothing else. -/
def Roster.Matches (roster : Roster) (database : Database) : Prop :=
  ∃ rows : Rows, (∀ t, database.rowsOf? t.name = some (rows t)) ∧
    (∀ t, ∀ row ∈ rows t, ∃ id, hasId id row = true) ∧
    BoyScout.kind.Portrays BoyScout.placement BoyScout.Storable rows roster.boys ∧
    GirlScout.kind.Portrays GirlScout.placement (fun _ => True) rows roster.girls

structure Roster.Mirrored (roster : Roster) (connection : Connection) (rows : Rows) : Prop where
  idle : connection.autocommit = true
  holds : Holds connection rows
  sound : Sound rows
  boys : BoyScout.kind.Portrays BoyScout.placement BoyScout.Storable rows roster.boys
  girls : GirlScout.kind.Portrays GirlScout.placement (fun _ => True) rows roster.girls

namespace Roster.Mirrored
variable {roster : Roster} {connection : Connection} {rows : Rows}

theorem initial (fresh : Fresh connection) : Roster.empty.Mirrored connection fun _ => [] where
  idle := fresh.idle
  holds := fresh.holds
  sound := .initial
  boys := Kind.portrays_empty _ _ _
  girls := Kind.portrays_empty _ _ _

theorem perform (mirrored : roster.Mirrored connection rows) {call : ScoutCall} (storable : call.Storable) :
    (call.perform connection).1 = (roster.answer call).1 ∧
      ∃ others, (roster.answer call).2.Mirrored (call.perform connection).2 others := by
  obtain ⟨idle, holds, sound, boys, girls⟩ := mirrored
  cases call with
  | boy call =>
    obtain ⟨after, others, outcome, rfl, closed, held, kept, shown, apart⟩ :=
      (Kind.answers BoyScout.lawful idle holds sound boys storable).perform
    refine ⟨congrArg ScoutOutcome.boy outcome, others, closed, held, kept, shown, girls.congr fun t inside => ?_⟩
    refine .of_eq (apart t ?_ ?_) <;> rcases inside with rfl | inside <;> first | decide | cases inside
  | girl call =>
    obtain ⟨after, others, outcome, rfl, closed, held, kept, shown, apart⟩ :=
      (Kind.answers GirlScout.lawful idle holds sound girls fun _ _ => trivial).perform
    refine ⟨congrArg ScoutOutcome.girl outcome, others, closed, held, kept, boys.congr fun t inside => ?_, shown⟩
    refine .of_eq (apart t ?_ List.not_mem_nil)
    rintro rfl
    exact absurd inside (by decide)

theorem performAll (mirrored : roster.Mirrored connection rows) {calls : List ScoutCall}
    (storable : ∀ call ∈ calls, call.Storable) :
    (ScoutCall.performAll connection calls).1 = (roster.answerAll calls).1 ∧
      ∃ others, (roster.answerAll calls).2.Mirrored (ScoutCall.performAll connection calls).2 others := by
  induction calls generalizing roster connection rows with
  | nil => exact ⟨rfl, rows, mirrored⟩
  | cons call rest ih =>
    obtain ⟨here, later⟩ := List.forall_mem_cons.mp storable
    obtain ⟨outcome, others, held⟩ := mirrored.perform here
    obtain ⟨outcomes, last, final⟩ := ih held later
    exact ⟨congrArg₂ List.cons outcome outcomes, last, final⟩

theorem matches_database (mirrored : roster.Mirrored connection rows) : roster.Matches connection.database := by
  obtain ⟨others, listed⟩ := mirrored.holds.rowsOf?
  refine ⟨others, fun t => (listed t).1, fun t row member => ?_, ?_, ?_⟩
  · exact mirrored.sound.identified t row ((listed t).2.mem_iff.mp member)
  · exact mirrored.boys.congr fun t _ => (listed t).2
  · exact mirrored.girls.congr fun t _ => (listed t).2

end Roster.Mirrored

/-- Calls that start on a freshly migrated database have the outcomes of those calls on empty maps, and the tables hold
what the maps keep in the end. -/
theorem performAll_refines {connection : Connection} (fresh : Fresh connection) {calls : List ScoutCall}
    (storable : ∀ call ∈ calls, call.Storable) :
    (ScoutCall.performAll connection calls).1 = (Roster.empty.answerAll calls).1 ∧
      (Roster.empty.answerAll calls).2.Matches (ScoutCall.performAll connection calls).2.database := by
  obtain ⟨outcomes, rows, mirrored⟩ := (Roster.Mirrored.initial fresh).performAll storable
  exact ⟨outcomes, mirrored.matches_database⟩

/-- A scout is created, created again, changed in the badges only and read. There is no girl scout with the id. -/
theorem performAll_refines_badges :
    let fresh := { Connection.ofDatabase (Contents.database fun _ => []) with knowsTables := true }
    let scout : BoyScout := { id := "s-1", badges := [.camping, .knots], joinTime := some ⟨5, 1999⟩ }
    let calls : List ScoutCall :=
      [.boy (.create scout), .boy (.create scout),
        .boy (.update { scout with badges := [.ballet], rank := .eagle } ⟨["badges"]⟩),
        .boy (.read "s-1"), .girl (.read "s-1")]
    (ScoutCall.performAll fresh calls).1 =
        [.boy (.ok .done), .boy (.error (.statement (.engine (.unique "boy_scout" ["id"])))), .boy (.ok .done),
          .boy (.ok (.found { scout with badges := [.ballet], joinTime := some ⟨5, 1000⟩ })),
          .girl (.error (.notFound "girl_scout" "s-1"))] ∧
      (Roster.empty.answerAll calls).2.Matches (ScoutCall.performAll fresh calls).2.database := by
  intro fresh scout calls
  have first : scout.Storable := ⟨by decide, by decide, by decide, by decide, by decide, by decide⟩
  have second : BoyScout.Storable { scout with badges := [.ballet], rank := .eagle } :=
    ⟨by decide, by decide, by decide, by decide, by decide, by decide⟩
  have storable : ∀ call ∈ calls, call.Storable := by
    have stored {written : BoyScout} (fine : written.Storable) : ∀ entity ∈ some written, entity.Storable := by
      rintro entity ⟨⟩
      exact fine
    refine List.forall_mem_cons.mpr ⟨stored first, List.forall_mem_cons.mpr ⟨stored first, ?_⟩⟩
    refine List.forall_mem_cons.mpr ⟨stored second, List.forall_mem_cons.mpr ⟨?_, ?_⟩⟩
    · rintro entity ⟨⟩
    · exact List.forall_mem_singleton.mpr trivial
  have opened : Fresh fresh := Fresh.memory
  obtain ⟨outcomes, held⟩ := performAll_refines opened storable
  exact ⟨outcomes.trans rfl, held⟩

end EntityStore
