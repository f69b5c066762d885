import EntityStore.Engine.Store
import EntityStore.Proofs.Scouts.Placement
import Mathlib.Data.Finmap

/-! Scouts as two finite maps. Calls on the maps say what calls of the mapper come to, without any tables, statements or
transactions. -/

namespace EntityStore
open Engine

abbrev Kept (E : Type) := Finmap fun _ : String => E

/-- What is kept of an entity of one kind, and what an update makes of the one that is kept and the new one. -/
structure Kind (E : Type) where
  table : String
  id : E → String
  settled : E → E
  merge : FieldMask → E → E → E

/-- The outcome of a call and what is kept after it. -/
def Kind.answer {E : Type} (kind : Kind E) (kept : Kept E) : Call E → Except CrudError (Reply E) × Kept E
  | .create entity =>
      let id := kind.id entity
      if id = "" then (.error (.statement (.engine (.notNull kind.table "id"))), kept)
      else if id ∈ kept then (.error (.statement (.engine (.unique kind.table ["id"]))), kept)
      else (.ok .done, kept.insert id (kind.settled entity))
  | .read id =>
      match kept.lookup id with
      | some entity => (.ok (.found entity), kept)
      | none => (.error (.notFound kind.table id), kept)
  | .update entity mask =>
      let id := kind.id entity
      match kept.lookup id with
      | some old => (.ok .done, kept.insert id (kind.merge mask old (kind.settled entity)))
      | none => (.error (.notFound kind.table id), kept)
  | .delete id => (.ok .done, kept.erase id)

namespace BoyScout

/-- A scout with the moment of joining rounded to microseconds. -/
def settled (scout : BoyScout) : BoyScout :=
  { scout with joinTime := scout.joinTime.map fun time => .fromMicros time.asMicros }

/-- The new scout in the fields that a mask includes, and the old one in all others. -/
def merge (mask : FieldMask) (old new : BoyScout) : BoyScout :=
  let choose {α : Type} (field : String) (get : BoyScout → α) : α := get (if mask.included field then new else old)
  { id := old.id
    fullName := choose "full_name" fullName
    shortName := choose "short_name" shortName
    birthdate := choose "birthdate" birthdate
    joinTime := choose "join_time" joinTime
    countryCode := choose "country_code" countryCode
    languageCode := choose "language_code" languageCode
    packCode := choose "pack_code" packCode
    rank := choose "rank" rank
    badges := choose "badges" badges
    favoriteSongs := choose "favorite_songs" favoriteSongs
    ianaCountryCode := choose "iana_country_code" ianaCountryCode
    whatAboutThis := choose "what_about_this" whatAboutThis
    campingTrips := choose "camping_trips" campingTrips
    bigUnsignedInt := choose "big_unsigned_int" bigUnsignedInt
    mask := choose "mask" BoyScout.mask }

def kind : Kind BoyScout := ⟨"boy_scout", BoyScout.id, settled, merge⟩

/-- Dates have no sign before month and day, and one statement can hold the elements of each collection. -/
structure Storable (scout : BoyScout) : Prop where
  birthdate : ∀ date ∈ scout.birthdate, 0 ≤ date.month ∧ 0 ≤ date.day
  campingTrips : ∀ date ∈ scout.campingTrips, 0 ≤ date.month ∧ 0 ≤ date.day
  badges_few : scout.badges.length ≤ 10922
  favoriteSongs_few : scout.favoriteSongs.length ≤ 10922
  campingTrips_few : scout.campingTrips.length ≤ 10922
  mask_few : scout.mask.length ≤ 10922

end BoyScout

def GirlScout.kind : Kind GirlScout := ⟨"girl_scout", GirlScout.id, fun scout => scout, fun _ old _ => old⟩

inductive ScoutCall where
  | boy (call : Call BoyScout)
  | girl (call : Call GirlScout)

inductive ScoutOutcome where
  | boy (outcome : Except CrudError (Reply BoyScout))
  | girl (outcome : Except CrudError (Reply GirlScout))

def Call.entity? {E : Type} : Call E → Option E
  | .create entity | .update entity _ => some entity
  | .read _ | .delete _ => none

def ScoutCall.Storable : ScoutCall → Prop
  | .boy call => ∀ scout ∈ call.entity?, scout.Storable
  | .girl _ => True

/-- A call through the mapper, in a transaction of its own under a live token. -/
def ScoutCall.perform (connection : Connection) : ScoutCall → ScoutOutcome × Connection
  | .boy call =>
      let (outcome, _, left) := BoyScout.mapping.perform Attached.store call (.ofConnection connection .live)
      (.boy outcome, left.transaction.connection)
  | .girl call =>
      let (outcome, _, left) := GirlScout.mapping.perform Attached.store call (.ofConnection connection .live)
      (.girl outcome, left.transaction.connection)

def ScoutCall.performAll (connection : Connection) : List ScoutCall → List ScoutOutcome × Connection
  | [] => ([], connection)
  | call :: rest =>
      let (outcome, connection) := call.perform connection
      let (outcomes, connection) := performAll connection rest
      (outcome :: outcomes, connection)

structure Roster where
  boys : Kept BoyScout
  girls : Kept GirlScout

namespace Roster

def empty : Roster := ⟨∅, ∅⟩

def answer (roster : Roster) : ScoutCall → ScoutOutcome × Roster
  | .boy call =>
      let (outcome, boys) := BoyScout.kind.answer roster.boys call
      (.boy outcome, { roster with boys := boys })
  | .girl call =>
      let (outcome, girls) := GirlScout.kind.answer roster.girls call
      (.girl outcome, { roster with girls := girls })

def answerAll (roster : Roster) : List ScoutCall → List ScoutOutcome × Roster
  | [] => ([], roster)
  | call :: rest =>
      let (outcome, roster) := roster.answer call
      let (outcomes, roster) := roster.answerAll rest
      (outcome :: outcomes, roster)

end Roster
end EntityStore
