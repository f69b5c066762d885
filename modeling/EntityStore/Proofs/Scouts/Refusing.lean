import EntityStore.Proofs.Refusal
import EntityStore.Scout
import Mathlib.Data.List.Forall2

/-! Why rows and lists of values are refused. A row of a boy scout is read cell by cell, so what is reported is the first
cell that is missing or cannot be read. A list of values is read into one collection and nothing else, and not at all
where one of them cannot be read. -/

namespace EntityStore
open Scalar

namespace Codec
variable {α E : Type} [Scalar α]

theorem decodeAll_eq_ok {values : List Value} {elements : List α} :
    decodeAll values = .ok elements ↔
      List.Forall₂ (fun stored element => decode stored = .ok element) values elements := by
  induction values generalizing elements with
  | nil => simp [decodeAll, eq_comm]
  | cons stored rest ih =>
    rw [decodeAll, bind_eq_ok, List.forall₂_cons_left_iff]
    refine exists_congr fun first => ?_
    rw [bind_eq_ok]
    constructor
    · rintro ⟨here, others, later, same⟩
      cases same
      exact ⟨others, here, ih.mp later, rfl⟩
    · rintro ⟨others, here, later, rfl⟩
      exact ⟨here, others, ih.mpr later, rfl⟩

/-- What is read of a list, or why nothing is: in the order of the values and one for each, or the first that cannot be
read. -/
structure ReadsAll (values : List Value) (outcome : Except CodecError E) (result : List α → E) : Prop where
  accepts : ∀ found, outcome = .ok found ↔ ∃ elements : List α,
    List.Forall₂ (fun stored element => decode stored = .ok element) values elements ∧ found = result elements
  succeeds : (∃ found, outcome = .ok found) ↔ ∀ stored ∈ values, ∃ element : α, decode stored = .ok element
  refuses : ∀ error, outcome = .error error ↔ ∃ before stored after, values = before ++ stored :: after ∧
    (decode stored : Except CodecError α) = .error error ∧ ∀ earlier ∈ before, ∃ element : α, decode earlier = .ok element

theorem refusal_decodeAll (values : List Value) : refusal (decodeAll values : Except CodecError (List α)) =
    values.findSome? fun stored => refusal (decode stored : Except CodecError α) := by
  induction values with
  | nil => rfl
  | cons stored rest ih =>
    refine refusal_bind_one rfl fun first => ?_
    rw [← ih]
    exact refusal_map _ _

theorem readsAll (values : List Value) (result : List α → E) :
    ReadsAll values (do return result (← decodeAll values)) result where
  accepts found := by
    rw [bind_eq_ok]
    refine exists_congr fun elements => ?_
    rw [decodeAll_eq_ok]
    exact and_congr_right fun _ => ⟨fun same => by cases same; rfl, fun same => by rw [same]; rfl⟩
  succeeds := by
    rw [← refusal_eq_none, refusal_map, refusal_decodeAll, List.findSome?_eq_none_iff]
    simp only [refusal_eq_none]
  refuses error := by
    rw [← refusal_eq_some, refusal_map, refusal_decodeAll, List.findSome?_eq_some_iff]
    simp only [refusal_eq_some, refusal_eq_none]

end Codec

open Codec

def ReadsCell [Scalar α] (row : List Value) (index : Nat) (value : α) : Prop :=
  ∃ stored, row[index]? = some stored ∧ decode stored = .ok value

theorem readColumn_eq_ok [Scalar α] {row : List Value} {index : Nat} {value : α} :
    readColumn row index = .ok value ↔ ReadsCell row index value := by
  rw [readColumn, bind_eq_ok]
  refine exists_congr fun stored => and_congr_left fun _ => ?_
  rw [column]
  cases row[index]? <;> simp

namespace BoyScout

/-- Why a value cannot be read in a column, by the type of its field. The columns not named here hold texts. -/
def refused : Nat → Value → Option CodecError
  | 3, stored => refusal (decode stored : Except CodecError (Option Date))
  | 4, stored => refusal (decode stored : Except CodecError (Option Timestamp))
  | 7, stored => refusal (decode stored : Except CodecError UInt32)
  | 8, stored => refusal (decode stored : Except CodecError Rank)
  | 10, stored => refusal (decode stored : Except CodecError Int64)
  | 11, stored => refusal (decode stored : Except CodecError UInt64)
  | _, stored => refusal (decode stored : Except CodecError String)

def cellError (row : List Value) (index : Nat) : Option CodecError :=
  match row[index]? with
  | none => some (.missingColumn index)
  | some stored => refused index stored

structure ReadFrom (row : List Value) (scout : BoyScout) : Prop where
  id : ReadsCell row 0 scout.id
  fullName : ReadsCell row 1 scout.fullName
  shortName : ReadsCell row 2 scout.shortName
  birthdate : ReadsCell row 3 scout.birthdate
  joinTime : ReadsCell row 4 scout.joinTime
  countryCode : ReadsCell row 5 scout.countryCode
  languageCode : ReadsCell row 6 scout.languageCode
  packCode : ReadsCell row 7 scout.packCode
  rank : ReadsCell row 8 scout.rank
  ianaCountryCode : ReadsCell row 9 scout.ianaCountryCode
  whatAboutThis : ReadsCell row 10 scout.whatAboutThis
  bigUnsignedInt : ReadsCell row 11 scout.bigUnsignedInt
  badges : scout.badges = []
  favoriteSongs : scout.favoriteSongs = []
  campingTrips : scout.campingTrips = []
  mask : scout.mask = []

theorem decodeRow_eq_ok {row : List Value} {scout : BoyScout} : decodeRow row = .ok scout ↔ ReadFrom row scout := by
  simp only [decodeRow, bind_eq_ok, readColumn_eq_ok]
  constructor
  · rintro ⟨_, id, _, fullName, _, shortName, _, birthdate, _, joinTime, _, countryCode, _, languageCode, _, packCode,
      _, rank, _, ianaCountryCode, _, whatAboutThis, _, bigUnsignedInt, ⟨⟩⟩
    exact ⟨id, fullName, shortName, birthdate, joinTime, countryCode, languageCode, packCode, rank, ianaCountryCode,
      whatAboutThis, bigUnsignedInt, rfl, rfl, rfl, rfl⟩
  · intro read
    obtain ⟨badges, favoriteSongs, campingTrips, mask⟩ := And.intro read.badges (And.intro read.favoriteSongs
      (And.intro read.campingTrips read.mask))
    cases scout
    cases badges
    cases favoriteSongs
    cases campingTrips
    cases mask
    exact ⟨_, read.id, _, read.fullName, _, read.shortName, _, read.birthdate, _, read.joinTime, _, read.countryCode, _,
      read.languageCode, _, read.packCode, _, read.rank, _, read.ianaCountryCode, _, read.whatAboutThis, _,
      read.bigUnsignedInt, rfl⟩

theorem refusal_readColumn [Scalar α] {row : List Value} {index : Nat}
    (typed : ∀ stored, refused index stored = refusal (decode stored : Except CodecError α)) :
    refusal (readColumn row index : Except CodecError α) = cellError row index := by
  rw [readColumn, column, cellError]
  cases row[index]? with
  | none => rfl
  | some stored => exact (typed stored).symm

theorem refusal_decodeRow (row : List Value) : refusal (decodeRow row) = (List.range 12).findSome? (cellError row) := by
  refine refusal_bind_one (refusal_readColumn fun _ => rfl) fun id => ?_
  refine refusal_bind_one (refusal_readColumn fun _ => rfl) fun fullName => ?_
  refine refusal_bind_one (refusal_readColumn fun _ => rfl) fun shortName => ?_
  refine refusal_bind_one (refusal_readColumn fun _ => rfl) fun birthdate => ?_
  refine refusal_bind_one (refusal_readColumn fun _ => rfl) fun joinTime => ?_
  refine refusal_bind_one (refusal_readColumn fun _ => rfl) fun countryCode => ?_
  refine refusal_bind_one (refusal_readColumn fun _ => rfl) fun languageCode => ?_
  refine refusal_bind_one (refusal_readColumn fun _ => rfl) fun packCode => ?_
  refine refusal_bind_one (refusal_readColumn fun _ => rfl) fun rank => ?_
  refine refusal_bind_one (refusal_readColumn fun _ => rfl) fun ianaCountryCode => ?_
  refine refusal_bind_one (refusal_readColumn fun _ => rfl) fun whatAboutThis => ?_
  exact refusal_bind_one (refusal_readColumn fun _ => rfl) fun bigUnsignedInt => rfl

structure ReadsRow (row : List Value) : Prop where
  accepts : ∀ scout, decodeRow row = .ok scout ↔ ReadFrom row scout
  succeeds : (∃ scout, decodeRow row = .ok scout) ↔ ∀ index < 12, cellError row index = none
  refuses : ∀ error, decodeRow row = .error error ↔
    ∃ index < 12, cellError row index = some error ∧ ∀ earlier < index, cellError row earlier = none

theorem readsRow (row : List Value) : ReadsRow row where
  accepts _ := decodeRow_eq_ok
  succeeds := by
    rw [← refusal_eq_none, refusal_decodeRow, List.findSome?_eq_none_iff]
    simp only [List.mem_range]
  refuses error := by rw [← refusal_eq_some, refusal_decodeRow, findSome?_range]

/-! ### Collections -/

/-- Reads values into a collection of the scout at hand, who outlasts a failure. -/
def fill [Scalar α] (values : List Value) (change : BoyScout → List α → BoyScout) :
    ExceptT CodecError (StateM BoyScout) Unit := do
  let elements ← ofExcept (decodeAll values)
  modify fun scout => change scout elements

def fillCollection (index : Nat) (values : List Value) : ExceptT CodecError (StateM BoyScout) Unit :=
  match index with
  | 0 => fill values fun scout badges => { scout with badges := badges }
  | 1 => fill values fun scout songs => { scout with favoriteSongs := songs }
  | 2 => fill values fun scout trips => { scout with campingTrips := trips }
  | 3 => fill values fun scout fields => { scout with mask := fields }
  | _ => return

/-- The place of a collection is that of its field in the schema. -/
def Stands (field : String) (index : Nat) : Prop := (schema.collections[index]?).map (·.field) = some field

/-- What becomes of a scout where values are read into his collection at a place. -/
structure ReadsCollection (scout : BoyScout) (index : Nat) (values : List Value) : Prop where
  badges : Stands "badges" index →
    ReadsAll values (scout.decodeCollection index values) fun badges : List Badge => { scout with badges := badges }
  favoriteSongs : Stands "favorite_songs" index →
    ReadsAll values (scout.decodeCollection index values) fun songs : List String => { scout with favoriteSongs := songs }
  campingTrips : Stands "camping_trips" index →
    ReadsAll values (scout.decodeCollection index values) fun trips : List Date => { scout with campingTrips := trips }
  mask : Stands "mask" index →
    ReadsAll values (scout.decodeCollection index values) fun fields : List String => { scout with mask := fields }
  noTrip : Stands "camping_trips" index → ∀ before after, values = before ++ .null :: after →
    (∀ earlier ∈ before, ∃ trip : Date, decode earlier = .ok trip) →
    scout.decodeCollection index values = .error (.unexpectedNull "date")
  outside : schema.collections.length ≤ index → scout.decodeCollection index values = .ok scout
  /-- A scout who is decoded in place is the new one afterwards, or after a failure the old one. -/
  inPlace : (fillCollection index values).run scout =
    match scout.decodeCollection index values with
    | .ok next => (.ok (), next)
    | .error error => (.error error, scout)

theorem fill_run [Scalar α] (scout : BoyScout) (values : List Value) (change : BoyScout → List α → BoyScout) :
    (fill values change).run scout =
      match (do return change scout (← decodeAll values) : Except CodecError BoyScout) with
      | .ok next => (.ok (), next)
      | .error error => (.error error, scout) := by
  unfold fill
  cases (decodeAll values : Except CodecError (List α)) with
  | ok elements => rfl
  | error error => rfl

theorem Stands.eq {field : String} {index place : Nat} (stands : Stands field index) (known : Stands field place) :
    place = index := by
  have distinct : (schema.collections.map (·.field)).Nodup := by decide
  rw [Stands, ← List.getElem?_map] at stands known
  obtain ⟨inside, -⟩ := List.getElem?_eq_some_iff.mp known
  exact (List.getElem?_inj inside distinct).mp (known.trans stands.symm)

theorem readsTrips {scout : BoyScout} {index : Nat} {values : List Value} (stands : Stands "camping_trips" index) :
    ReadsAll values (scout.decodeCollection index values) fun trips : List Date => { scout with campingTrips := trips } := by
  obtain rfl := stands.eq (show Stands "camping_trips" 2 from rfl)
  exact readsAll values _

theorem readsCollection (scout : BoyScout) (index : Nat) (values : List Value) :
    ReadsCollection scout index values where
  badges stands := by
    obtain rfl := stands.eq (show Stands "badges" 0 from rfl)
    exact readsAll values _
  favoriteSongs stands := by
    obtain rfl := stands.eq (show Stands "favorite_songs" 1 from rfl)
    exact readsAll values _
  campingTrips := readsTrips
  mask stands := by
    obtain rfl := stands.eq (show Stands "mask" 3 from rfl)
    exact readsAll values _
  noTrip stands before after same readable :=
    ((readsTrips stands).refuses _).mpr ⟨before, .null, after, same, rfl, readable⟩
  outside beyond := by
    obtain ⟨more, rfl⟩ := Nat.exists_eq_add_of_le' (show 4 ≤ index from beyond)
    rfl
  inPlace := by
    match index with
    | 0 | 1 | 2 | 3 => exact fill_run scout values _
    | _ + 4 => rfl

/-- Rows and lists of values are read as a whole or not at all, and what is reported is the first cell or value that cannot
be read. -/
theorem decode_firstRefused :
    (∀ row, ReadsRow row) ∧ ∀ scout index values, ReadsCollection scout index values :=
  ⟨readsRow, readsCollection⟩

/-- The first cell of two that are wrong is reported, and a scout keeps his trips where one of those to come is NULL. -/
theorem decode_firstRefused_trip :
    let scout : BoyScout := { id := "s-1", campingTrips := [⟨2008, 2, 3⟩] }
    let values : List Value := [.text "2009-01-31", .null, .integer 5]
    decodeRow [.text "s-1", .null, .integer 7, .blob []] = .error (.unexpectedType "text" "integer") ∧
      decodeRow [.text "s-1"] = .error (.missingColumn 1) ∧ Stands "camping_trips" 2 ∧
      (∀ earlier ∈ values.take 1, ∃ trip : Date, decode earlier = .ok trip) ∧
      (fillCollection 2 values).run scout = (.error (.unexpectedNull "date"), scout) := by
  intro scout values
  obtain ⟨rows, collections⟩ := decode_firstRefused
  have stands : Stands "camping_trips" 2 := rfl
  have readable : ∀ earlier ∈ values.take 1, ∃ trip : Date, decode earlier = .ok trip := by
    intro earlier member
    rw [List.mem_singleton.mp member]
    exact ⟨⟨2009, 1, 31⟩, rfl⟩
  have refused := (collections scout 2 values).noTrip stands (values.take 1) [.integer 5] rfl readable
  refine ⟨((rows _).refuses _).mpr ⟨2, by decide, rfl, by decide⟩, ((rows _).refuses _).mpr ⟨1, by decide, rfl, by decide⟩,
    stands, readable, ?_⟩
  rw [(collections scout 2 values).inPlace, refused]

end BoyScout
end EntityStore
