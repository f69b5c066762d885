import EntityStore.Json.Scout
import EntityStore.Proofs.Shapes

/-! The JSON shapes of calendar values and scouts are lawful. -/

namespace EntityStore
open Shape

instance : Shape.Lawful Rank := lawful_variant fun rank => by cases rank <;> rfl

instance : Shape.Lawful Badge := lawful_variant fun badge => by cases badge <;> rfl

theorem Date.lawful_layout : Date.layout.Lawful where
  distinct := by decide
  takesNull := by simp [layout, takesNull_field]
  fits date := by simp [layout, fits_field]
  reaches same := by
    simp only [layout, List.forall_mem_cons, field] at same
    simp only [layout, same]
  assembles {date get} each := by
    simp only [layout, List.forall_mem_cons] at each
    obtain ⟨year, month, day, -⟩ := each
    simp only [layout, Lawful.reads date.year year, Lawful.reads date.month month, Lawful.reads date.day day]
    rfl

instance : Shape.Lawful Date := Date.lawful_layout.shape

theorem Timestamp.lawful_layout : Timestamp.layout.Lawful where
  distinct := by decide
  takesNull := by simp [layout, takesNull_field]
  fits time := by simp [layout, fits_field]
  reaches same := by
    simp only [layout, List.forall_mem_cons, field] at same
    simp only [layout, same]
  assembles {time get} each := by
    simp only [layout, List.forall_mem_cons] at each
    obtain ⟨seconds, nanos, -⟩ := each
    simp only [layout, Lawful.reads time.seconds seconds, Lawful.reads time.nanos nanos]
    rfl

instance : Shape.Lawful Timestamp := Timestamp.lawful_layout.shape

instance : Shape.Lawful (Option Date) := lawful_option nofun

instance : Shape.Lawful (Option Timestamp) := lawful_option nofun

theorem GirlScout.lawful_layout : GirlScout.layout.Lawful where
  distinct := by decide
  takesNull := by simp [layout, takesNull_field]
  fits scout := by simp [layout, fits_field]
  reaches same := by
    simp only [layout, List.forall_mem_cons, field] at same
    simp only [layout, same]
  assembles {scout get} each := by
    simp only [layout, List.forall_mem_cons] at each
    simp only [layout, Lawful.reads scout.id each.1]
    rfl

instance : Shape.Lawful GirlScout := GirlScout.lawful_layout.shape

theorem BoyScout.lawful_layout : BoyScout.layout.Lawful where
  distinct := by decide
  takesNull := by simp [layout, takesNull_field]
  fits scout := by simp [layout, fits_field]
  reaches same := by
    simp only [layout, List.forall_mem_cons, field] at same
    simp only [layout, same]
  assembles {scout get} each := by
    simp only [layout, List.forall_mem_cons] at each
    obtain ⟨id, fullName, shortName, birthdate, joinTime, countryCode, languageCode, packCode, rank, badges,
      favoriteSongs, ianaCountryCode, whatAboutThis, campingTrips, bigUnsignedInt, mask, -⟩ := each
    simp only [layout, Lawful.reads scout.id id, Lawful.reads scout.fullName fullName,
      Lawful.reads scout.shortName shortName, Lawful.reads scout.birthdate birthdate,
      Lawful.reads scout.joinTime joinTime, Lawful.reads scout.countryCode countryCode,
      Lawful.reads scout.languageCode languageCode, Lawful.reads scout.packCode packCode,
      Lawful.reads scout.rank rank, Lawful.reads scout.badges badges,
      Lawful.reads scout.favoriteSongs favoriteSongs, Lawful.reads scout.ianaCountryCode ianaCountryCode,
      Lawful.reads scout.whatAboutThis whatAboutThis, Lawful.reads scout.campingTrips campingTrips,
      Lawful.reads scout.bigUnsignedInt bigUnsignedInt, Lawful.reads scout.mask mask]
    rfl

instance : Shape.Lawful BoyScout := BoyScout.lawful_layout.shape

/-- How the fields are written that are not text: integers of 64 bits as they are, variants by their words, and a date
or time that is not set as null. -/
structure BoyScout.Written (scout : BoyScout) (fields : List (String × Json)) : Prop where
  whatAboutThis : ("what_about_this", .integer scout.whatAboutThis.toInt) ∈ fields
  bigUnsignedInt : ("big_unsigned_int", .integer scout.bigUnsignedInt.toNat) ∈ fields
  rank : ("rank", .string (Variant.word scout.rank)) ∈ fields
  badges : ("badges", .array (scout.badges.map fun badge => .string (Variant.word badge))) ∈ fields
  birthdate (unset : scout.birthdate = none) : ("birthdate", .null) ∈ fields
  joinTime (unset : scout.joinTime = none) : ("join_time", .null) ∈ fields

theorem BoyScout.written_members (scout : BoyScout) : scout.Written (layout.members scout) where
  whatAboutThis := by simp [layout, toJson]
  bigUnsignedInt := by simp [layout, toJson]
  rank := by simp [layout, toJson]
  badges := by simp [layout, toJson]
  birthdate unset := by simp [layout, toJson, unset]
  joinTime unset := by simp [layout, toJson, unset]

/-- Names in the order of declaration. -/
def BoyScout.fieldNames : List String :=
  ["id", "full_name", "short_name", "birthdate", "join_time", "country_code", "language_code", "pack_code", "rank",
    "badges", "favorite_songs", "iana_country_code", "what_about_this", "camping_trips", "big_unsigned_int", "mask"]

/-- Every shape gives back what was written, and scouts are read by the names of their fields. -/
theorem shapes_lawful :
    (Shape.Lawful BoyScout ∧ Shape.Lawful GirlScout ∧ Shape.Lawful Date ∧ Shape.Lawful Timestamp ∧ Shape.Lawful Rank ∧
      Shape.Lawful Badge) ∧
    ReadsFields BoyScout BoyScout.fieldNames ["birthdate", "join_time"] ∧ ReadsFields GirlScout ["id"] [] ∧
    (∀ scout : BoyScout, ∃ fields, toJson scout = .object fields ∧ fields.map Prod.fst = BoyScout.fieldNames ∧
      scout.Written fields) ∧
    (∀ time : Timestamp,
      toJson time = .object [("seconds", .integer time.seconds.toInt), ("nanos", .integer time.nanos.toInt)]) ∧
    [Rank.unspecified, .tenderfoot, .boyScout, .eagle].map toJson =
      ["unspecified", "tenderfoot", "boy_scout", "eagle"].map Json.string ∧
    [Badge.unspecified, .ballet, .camping, .firstAid, .knots].map toJson =
      ["unspecified", "ballet", "camping", "first_aid", "knots"].map Json.string := by
  refine ⟨⟨inferInstance, inferInstance, inferInstance, inferInstance, inferInstance, inferInstance⟩,
    BoyScout.lawful_layout.readsFields, GirlScout.lawful_layout.readsFields, fun scout => ?_, fun time => rfl, rfl, rfl⟩
  exact ⟨BoyScout.layout.members scout, rfl, rfl, scout.written_members⟩

example : (ofJson (.object [("day", .integer 4), ("year", .integer 2020), ("era", .null), ("month", .integer 7)]) :
    Except ShapeError Date) = .ok ⟨2020, 7, 4⟩ := rfl

end EntityStore
