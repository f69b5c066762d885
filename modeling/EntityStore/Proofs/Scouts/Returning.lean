import EntityStore.Proofs.Dates
import EntityStore.Proofs.Scouts.Isolation
import EntityStore.Proofs.Scouts.Lengths
import EntityStore.Proofs.Scouts.Stored

/-! Which scouts come back. A create is done whatever dates a scout has, and what it leaves stays until another call
writes to its id, but a read stops at the first date with a sign before its month or its day. -/

namespace EntityStore
open Engine ScoutWrite

namespace BoyScout

def dates (scout : BoyScout) : List Date := scout.birthdate.toList ++ scout.campingTrips

/-- What is read of a scout: he himself, as he is kept, or the error of the first of his dates that cannot be read. -/
def returned (scout : BoyScout) : Except CodecError BoyScout :=
  match scout.dates.find? Date.signed with
  | none => .ok scout.settled
  | some date => .error (.invalidDate (String.ofList (Codec.dateText date)))

theorem decodeAll_dates (dates : List Date) : Codec.decodeAll (dates.map Scalar.encode) =
    match dates.find? Date.signed with
    | none => .ok dates
    | some date => .error (.invalidDate (String.ofList (Codec.dateText date))) := by
  induction dates with
  | nil => rfl
  | cons date rest ih =>
    rw [List.map_cons, Codec.decodeAll, Scalar.decode_dateText, ih, List.find?_cons]
    cases date.signed with
    | true => rfl
    | false => cases rest.find? Date.signed <;> rfl

theorem decodeRow_signed {scout : BoyScout} {date : Date} (born : scout.birthdate = some date)
    (signed : date.signed = true) :
    decodeRow (mapping.row scout) = .error (.invalidDate (String.ofList (Codec.dateText date))) := by
  have id : readColumn (mapping.row scout) 0 = .ok scout.id := readColumn_text rfl
  have fullName : readColumn (mapping.row scout) 1 = .ok scout.fullName := readColumn_text rfl
  have shortName : readColumn (mapping.row scout) 2 = .ok scout.shortName := readColumn_text rfl
  have column : (mapping.row scout)[3]? = some (Scalar.encode scout.birthdate) := rfl
  have birthdate : (readColumn (mapping.row scout) 3 : Except CodecError (Option Date)) =
      .error (.invalidDate (String.ofList (Codec.dateText date))) := by
    rw [readColumn_eq column, born]
    change some <$> Scalar.decode (Scalar.encode date) = _
    rw [Scalar.decode_dateText, if_pos signed]
    rfl
  simp only [decodeRow, id, fullName, shortName, birthdate, bind, Except.bind]

theorem decodeParts_signed {scout : BoyScout} {date : Date} (found : scout.campingTrips.find? Date.signed = some date)
    (bare : BoyScout) :
    mapping.decodeParts bare 0 (placement.children.map fun child => placement.elements scout child.2) =
      .error (.invalidDate (String.ofList (Codec.dateText date))) := by
  have badges := Scalar.decodeAll_badges scout.badges
  have songs := Scalar.decodeAll_texts scout.favoriteSongs
  have trips := decodeAll_dates scout.campingTrips
  rw [found] at trips
  change mapping.decodeParts bare 0 [encodeCollection scout 0, encodeCollection scout 1, encodeCollection scout 2,
    encodeCollection scout 3] = _
  simp only [Mapping.decodeParts, mapping, encodeCollection, decodeCollection, badges, songs, trips, bind, Except.bind,
    pure, Except.pure]

theorem decoded_returned (scout : BoyScout) : placement.decoded scout = scout.returned := by
  have unsigned {dates : List Date} (none : dates.find? Date.signed = none) :
      ∀ date ∈ dates, 0 ≤ date.month ∧ 0 ≤ date.day := fun date member =>
    Date.signed_eq_false.mp (Bool.eq_false_iff.mpr (List.find?_eq_none.mp none date member))
  rw [returned, dates, List.find?_append, Placement.decoded]
  cases born : scout.birthdate.toList.find? Date.signed with
  | some date =>
    have birthdate : scout.birthdate = some date := Option.mem_toList.mp (List.mem_of_find?_eq_some born)
    have row : mapping.decodeRow (mapping.row scout) = _ := decodeRow_signed birthdate (List.find?_some born)
    rw [row]
    rfl
  | none =>
    have birthdate := fun date member => unsigned born date (Option.mem_toList.mpr member)
    cases trips : scout.campingTrips.find? Date.signed with
    | none => exact decoded_settled birthdate (unsigned trips)
    | some date =>
      have row : mapping.decodeRow (mapping.row scout) = _ := decodeRow_row birthdate
      rw [row]
      exact decodeParts_signed trips _

theorem returned_ok_iff (scout : BoyScout) :
    (∃ found, scout.returned = .ok found) ↔ ∀ date ∈ scout.dates, date.signed = false := by
  unfold returned
  cases found : scout.dates.find? Date.signed with
  | none => simpa using found
  | some date => simpa using ⟨date, List.mem_of_find?_eq_some found, List.find?_some found⟩

end BoyScout

namespace Placement
variable {E : Type} {mapping : Mapping E} (placement : Placement mapping) {connection : Connection} {rows : Rows}
  {entity : E}

theorem absent_of_created (idle : connection.autocommit = true) (holds : Holds connection rows) (sound : Sound rows)
    (created : (mapping.perform Attached.store (.create entity) (.ofConnection connection .live)).1 = .ok .done) :
    mapping.id entity ≠ "" ∧ placement.Shows rows (mapping.id entity) none ∧ placement.Few entity := by
  have accepted := placement.accepted entity
  have spec := holds.opened.execute_insert placement.parental (ScoutTable.fits_of_accepts accepted)
    (ScoutTable.plain_of_accepts accepted) (mapping.id entity)
  dsimp only at spec
  have inserted (error : EngineError) :
      connection.opened.execute (.insert placement.parent.name placement.parent.columnNames)
        (Codec.encodeText (mapping.id entity) :: mapping.encodeColumns entity) ≠
          (.error error, { connection.opened with changes := 0 }) := by
    intro failed
    have same : mapping.operation (.create entity) =
        do return (fun _ => .done) (← Operation.inTransaction (mapping.insertEntity entity)) := rfl
    obtain ⟨refused, -, -⟩ := refused_perform _ idle holds same
      (placement.insertEntity_refused failed (.ofRows [])) ⟨_, _, _, rfl⟩
    rw [created] at refused
    cases refused
  have present : mapping.id entity ≠ "" := by
    intro empty
    rw [if_pos empty] at spec
    exact inserted _ spec
  have absent : ¬ ∃ row ∈ rows placement.parent, hasId (mapping.id entity) row = true := by
    intro stored
    rw [if_neg present, if_pos stored] at spec
    exact inserted _ spec
  have shows : placement.Shows rows (mapping.id entity) none :=
    sound.shows_none (List.filter_eq_nil_iff.mpr fun row member has => absent ⟨row, member, has⟩)
  have within : mapping.WithinLimit (.create entity) := by
    by_contra long
    obtain ⟨error, refused, -⟩ := (placement.limited_create idle holds present shows).refused long
    rw [created] at refused
    cases refused
  rw [placement.withinLimit_iff, placement.create_short] at within
  exact ⟨present, shows, fun child member => within child member rfl⟩

end Placement

/-- A call that writes to no row of a boy scout. It reads him or is about another scout. -/
def ScoutCall.Spares (id : String) (call : ScoutCall) : Prop := call = .boy (.read id) ∨ call.Apart (.boy (.read id))

/-- A scout is stored under his id, with no transaction open. -/
structure BoyScout.Stored (scout : BoyScout) (connection : Connection) : Prop where
  idle : connection.autocommit = true
  shown : ∃ rows, Holds connection rows ∧ placement.Shows rows scout.id (some scout)
  few : placement.Few scout

namespace BoyScout.Stored
variable {scout : BoyScout} {connection : Connection}

theorem of_created (reached : Reachable connection)
    (created : ((ScoutCall.boy (.create scout)).perform connection).1 = .boy (.ok .done)) :
    scout.Stored ((ScoutCall.boy (.create scout)).perform connection).2 := by
  obtain ⟨idle, rows, holds, sound⟩ := reached.orderly
  obtain ⟨present, blank, few⟩ := placement.absent_of_created idle holds sound (by injection created)
  obtain ⟨allowed, shows⟩ := blank.create present holds.distinct few
  obtain ⟨-, closed, held⟩ := (placement.done_create idle holds allowed).perform
  exact ⟨closed, ⟨_, held, shows⟩, few⟩

theorem read (stored : scout.Stored connection) :
    ((ScoutCall.boy (.read scout.id)).perform connection).1 =
        .boy ((scout.returned.map Reply.found).mapError CrudError.codec) ∧
      scout.Stored ((ScoutCall.boy (.read scout.id)).perform connection).2 := by
  obtain ⟨idle, ⟨rows, holds, shows⟩, few⟩ := stored
  rw [← decoded_returned]
  cases decoded : placement.decoded scout with
  | ok found =>
    obtain ⟨outcome, closed, held⟩ := (shows.done_read few idle holds decoded).perform
    exact ⟨congrArg ScoutOutcome.boy outcome, closed, ⟨rows, held, shows⟩, few⟩
  | error error =>
    obtain ⟨last, failed⟩ := shows.readEntity holds.opened few (.ofRows [])
    rw [decoded] at failed
    have same : mapping.operation (.read scout.id) =
        do return .found (← Operation.inTransaction (mapping.readEntity scout.id)) := rfl
    obtain ⟨outcome, closed, held⟩ := Placement.refused_perform .found idle holds same failed (.refl _)
    exact ⟨congrArg ScoutOutcome.boy outcome, closed, ⟨rows, held, shows⟩, few⟩

theorem apart (stored : scout.Stored connection) {call : ScoutCall} (apart : call.Apart (.boy (.read scout.id))) :
    scout.Stored (call.perform connection).2 := by
  obtain ⟨idle, ⟨rows, holds, shows⟩, few⟩ := stored
  obtain ⟨⟨closed, left, held⟩, stay⟩ := call.perform_frame ⟨idle, rows, holds⟩
  rw [Connection.committed_eq idle, Connection.committed_eq closed, holds.agreeOn held] at stay
  have alike : Alike placement.tables scout.id rows left :=
    placement.alike_iff.mpr fun t row owns => stay t row (apart.symm.owns t row owns)
  exact ⟨closed, ⟨left, held, shows.congr fun t inside => (alike t (List.mem_cons.mpr inside)).symm⟩, few⟩

theorem performAll (stored : scout.Stored connection) {calls : List ScoutCall}
    (spared : ∀ call ∈ calls, call.Spares scout.id) : scout.Stored (ScoutCall.performAll connection calls).2 := by
  induction calls generalizing connection with
  | nil => exact stored
  | cons call rest ih =>
    obtain ⟨here, later⟩ := List.forall_mem_cons.mp spared
    have next : scout.Stored (call.perform connection).2 := by
      rcases here with rfl | apart
      · exact stored.read.2
      · exact stored.apart apart
    exact ih next later

end BoyScout.Stored

theorem Fresh.creates {connection : Connection} (fresh : Fresh connection) {scout : BoyScout} (compact : scout.Compact)
    (present : scout.id ≠ "") : ((ScoutCall.boy (.create scout)).perform connection).1 = .boy (.ok .done) := by
  have allowed := BoyScout.placement.create_allowed present fresh.holds.distinct compact.few rfl fun _ _ => rfl
  obtain ⟨outcome, -, -⟩ := (BoyScout.placement.done_create fresh.idle fresh.holds allowed).perform
  exact congrArg ScoutOutcome.boy outcome

/-- Every date comes back but those that are signed, and so does every scout who was created with no other dates, for as
long as nobody writes to his id. A scout with a signed date is created too, and no read of him is done. -/
theorem created_returns {connection : Connection} (reached : Reachable connection) {scout : BoyScout}
    (created : ((ScoutCall.boy (.create scout)).perform connection).1 = .boy (.ok .done)) {calls : List ScoutCall}
    (spared : ∀ call ∈ calls, call.Spares scout.id) :
    (∀ date : Date, Scalar.decode (Scalar.encode date) =
      if date.signed then .error (.invalidDate (String.ofList (Codec.dateText date))) else .ok date) ∧
    ((ScoutCall.boy (.read scout.id)).perform (ScoutCall.performAll connection (.boy (.create scout) :: calls)).2).1 =
      .boy ((scout.returned.map Reply.found).mapError CrudError.codec) ∧
    ((∃ found, scout.returned = .ok found) ↔ ∀ date ∈ scout.dates, date.signed = false) := by
  have stored : scout.Stored (ScoutCall.performAll connection (.boy (.create scout) :: calls)).2 :=
    (BoyScout.Stored.of_created reached created).performAll spared
  exact ⟨Scalar.decode_dateText, stored.read.1, scout.returned_ok_iff⟩

/-- A scout born before the year zero is read twice, with calls about others in between. -/
theorem created_returns_early :
    let fresh := { Connection.ofDatabase (Contents.database fun _ => []) with knowsTables := true }
    let scout : BoyScout := { id := "s-1", birthdate := some ⟨-44, 3, 15⟩, campingTrips := [⟨12345, 0, 31⟩] }
    let calls : List ScoutCall := [.boy (.read "s-1"), .girl (.create ⟨"s-1"⟩), .boy (.delete "S-1")]
    Reachable fresh ∧ ((ScoutCall.boy (.create scout)).perform fresh).1 = .boy (.ok .done) ∧
      (∀ call ∈ calls, call.Spares "s-1") ∧
      ((ScoutCall.boy (.read "s-1")).perform (ScoutCall.performAll fresh (.boy (.create scout) :: calls)).2).1 =
        .boy (.ok (.found scout)) := by
  intro fresh scout calls
  have opened : Fresh fresh := Fresh.memory
  have compact : scout.Compact := ⟨by decide, by decide, by decide, by decide⟩
  have created := opened.creates compact (by decide)
  have spared : ∀ call ∈ calls, call.Spares "s-1" := by
    have apart : "S-1" ≠ "s-1" := by decide
    exact List.forall_mem_cons.mpr ⟨.inl rfl, List.forall_mem_cons.mpr ⟨.inr trivial,
      List.forall_mem_singleton.mpr (.inr apart)⟩⟩
  have unsigned : scout.dates.find? Date.signed = none := by decide
  have returned : scout.returned = .ok scout := by
    rw [BoyScout.returned, unsigned]
    rfl
  obtain ⟨-, read, -⟩ := created_returns (.fresh opened) created spared
  rw [returned] at read
  exact ⟨.fresh opened, created, spared, read⟩

/-- A scout born in a month before the first is created and cannot be read. -/
theorem created_unreadable :
    let fresh := { Connection.ofDatabase (Contents.database fun _ => []) with knowsTables := true }
    let born : Date := ⟨2008, -1, 3⟩
    let scout : BoyScout := { id := "s-1", birthdate := some born }
    (Scalar.decode (Scalar.encode born) : Except CodecError Date) = .error (.invalidDate "2008--1-03") ∧
      Reachable fresh ∧ ((ScoutCall.boy (.create scout)).perform fresh).1 = .boy (.ok .done) ∧
      ((ScoutCall.boy (.read "s-1")).perform ((ScoutCall.boy (.create scout)).perform fresh).2).1 =
        .boy (.error (.codec (.invalidDate "2008--1-03"))) := by
  intro fresh born scout
  have opened : Fresh fresh := Fresh.memory
  have compact : scout.Compact := ⟨by decide, by decide, by decide, by decide⟩
  have done := opened.creates compact (by decide)
  have text : String.ofList (Codec.dateText born) = "2008--1-03" := by decide
  have signed : scout.dates.find? Date.signed = some born := by decide
  have returned : scout.returned = .error (.invalidDate "2008--1-03") := by
    rw [BoyScout.returned, signed, ← text]
  have decoded := Scalar.decode_dateText born
  rw [if_pos (by decide), text] at decoded
  have read := (BoyScout.Stored.of_created (.fresh opened) done).read.1
  rw [returned] at read
  exact ⟨decoded, .fresh opened, done, read⟩

end EntityStore
