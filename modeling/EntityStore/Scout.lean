import EntityStore.Schema

/-! Scouts and their tables. A boy scout has scalar fields and four ordered collections, a girl scout has an
id and nothing else. -/

namespace EntityStore
open Scalar

inductive Rank where
  | unspecified | tenderfoot | boyScout | eagle
  deriving DecidableEq, Repr

instance : Variant Rank where
  typeName := "Rank"
  all := [.unspecified, .tenderfoot, .boyScout, .eagle]
  word
    | .unspecified => "unspecified"
    | .tenderfoot => "tenderfoot"
    | .boyScout => "boy_scout"
    | .eagle => "eagle"
  number
    | .unspecified => 0
    | .tenderfoot => 1
    | .boyScout => 2
    | .eagle => 3

inductive Badge where
  | unspecified | ballet | camping | firstAid | knots
  deriving DecidableEq, Repr

instance : Variant Badge where
  typeName := "Badge"
  all := [.unspecified, .ballet, .camping, .firstAid, .knots]
  word
    | .unspecified => "unspecified"
    | .ballet => "ballet"
    | .camping => "camping"
    | .firstAid => "first_aid"
    | .knots => "knots"
  number
    | .unspecified => 0
    | .ballet => 1
    | .camping => 2
    | .firstAid => 3
    | .knots => 4

structure BoyScout where
  id : String
  fullName : String := ""
  shortName : String := ""
  birthdate : Option Date := none
  joinTime : Option Timestamp := none
  countryCode : String := ""
  languageCode : String := ""
  packCode : UInt32 := 0
  rank : Rank := .unspecified
  badges : List Badge := []
  favoriteSongs : List String := []
  ianaCountryCode : String := ""
  whatAboutThis : Int64 := 0
  campingTrips : List Date := []
  bigUnsignedInt : UInt64 := 0
  mask : List String := []
  deriving DecidableEq, Repr

structure GirlScout where
  id : String
  deriving DecidableEq, Repr

def readColumn [Scalar α] (row : List Value) (index : Nat) : Except CodecError α := do
  decode (← Codec.column row index)

namespace BoyScout

/-- Every scalar field is stored in the column of its own name. -/
def schema : Schema where
  table := "boy_scout"
  idColumn := "id"
  columns :=
    ["full_name", "short_name", "birthdate", "join_time", "country_code", "language_code", "pack_code", "rank",
      "iana_country_code", "what_about_this", "big_unsigned_int"].map fun name => ⟨name, name⟩
  collections :=
    ["badges", "favorite_songs", "camping_trips", "mask"].map fun field => ⟨field, "boy_scout_" ++ field⟩

def encodeColumns (scout : BoyScout) : List Value :=
  [encode scout.fullName, encode scout.shortName, encode scout.birthdate, encode scout.joinTime,
    encode scout.countryCode, encode scout.languageCode, encode scout.packCode, encode scout.rank,
    encode scout.ianaCountryCode, encode scout.whatAboutThis, encode scout.bigUnsignedInt]

/-- Reads the cells in order, so the error is that of the first cell that is missing or cannot be read. -/
def decodeRow (row : List Value) : Except CodecError BoyScout := do
  let id ← readColumn row 0
  let fullName ← readColumn row 1
  let shortName ← readColumn row 2
  let birthdate ← readColumn row 3
  let joinTime ← readColumn row 4
  let countryCode ← readColumn row 5
  let languageCode ← readColumn row 6
  let packCode ← readColumn row 7
  let rank ← readColumn row 8
  let ianaCountryCode ← readColumn row 9
  let whatAboutThis ← readColumn row 10
  let bigUnsignedInt ← readColumn row 11
  return {
    id := id, fullName := fullName, shortName := shortName, birthdate := birthdate, joinTime := joinTime,
    countryCode := countryCode, languageCode := languageCode, packCode := packCode, rank := rank,
    ianaCountryCode := ianaCountryCode, whatAboutThis := whatAboutThis, bigUnsignedInt := bigUnsignedInt }

def encodeCollection (scout : BoyScout) : Nat → List Value
  | 0 => scout.badges.map encode
  | 1 => scout.favoriteSongs.map encode
  | 2 => scout.campingTrips.map encode
  | 3 => scout.mask.map encode
  | _ => []

def decodeCollection (scout : BoyScout) (index : Nat) (values : List Value) : Except CodecError BoyScout :=
  match index with
  | 0 => return { scout with badges := ← Codec.decodeAll values }
  | 1 => return { scout with favoriteSongs := ← Codec.decodeAll values }
  | 2 => return { scout with campingTrips := ← Codec.decodeAll values }
  | 3 => return { scout with mask := ← Codec.decodeAll values }
  | _ => return scout

def mapping : Mapping BoyScout where
  schema := schema
  id := BoyScout.id
  encodeColumns := encodeColumns
  decodeRow := decodeRow
  encodeCollection := encodeCollection
  decodeCollection := decodeCollection

end BoyScout

namespace GirlScout

def schema : Schema where
  table := "girl_scout"
  idColumn := "id"
  columns := []
  collections := []

def mapping : Mapping GirlScout where
  schema := schema
  id := GirlScout.id
  encodeColumns _ := []
  decodeRow row := return ⟨← readColumn row 0⟩
  encodeCollection _ _ := []
  decodeCollection scout _ _ := .ok scout

end GirlScout
end EntityStore
