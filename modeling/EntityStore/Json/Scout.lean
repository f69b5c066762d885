import EntityStore.Json.Shape
import EntityStore.Scout

/-! The JSON shape of dates, timestamps and scouts. -/

namespace EntityStore
open Shape

def Date.layout : Layout Date where
  name := "Date"
  fields := [field Int32 "year", field Int32 "month", field Int32 "day"]
  assemble get := return ⟨← ofJson (get "year"), ← ofJson (get "month"), ← ofJson (get "day")⟩
  members date := [("year", toJson date.year), ("month", toJson date.month), ("day", toJson date.day)]

instance : Shape Date := Date.layout.shape

def Timestamp.layout : Layout Timestamp where
  name := "Timestamp"
  fields := [field Int64 "seconds", field Int32 "nanos"]
  assemble get := return ⟨← ofJson (get "seconds"), ← ofJson (get "nanos")⟩
  members time := [("seconds", toJson time.seconds), ("nanos", toJson time.nanos)]

instance : Shape Timestamp := Timestamp.layout.shape

def BoyScout.layout : Layout BoyScout where
  name := "BoyScout"
  fields :=
    [field String "id", field String "full_name", field String "short_name", field (Option Date) "birthdate",
      field (Option Timestamp) "join_time", field String "country_code", field String "language_code",
      field UInt32 "pack_code", field Rank "rank", field (List Badge) "badges",
      field (List String) "favorite_songs", field String "iana_country_code", field Int64 "what_about_this",
      field (List Date) "camping_trips", field UInt64 "big_unsigned_int", field (List String) "mask"]
  assemble get := return {
    id := ← ofJson (get "id"), fullName := ← ofJson (get "full_name"),
    shortName := ← ofJson (get "short_name"), birthdate := ← ofJson (get "birthdate"),
    joinTime := ← ofJson (get "join_time"), countryCode := ← ofJson (get "country_code"),
    languageCode := ← ofJson (get "language_code"), packCode := ← ofJson (get "pack_code"),
    rank := ← ofJson (get "rank"), badges := ← ofJson (get "badges"),
    favoriteSongs := ← ofJson (get "favorite_songs"),
    ianaCountryCode := ← ofJson (get "iana_country_code"),
    whatAboutThis := ← ofJson (get "what_about_this"), campingTrips := ← ofJson (get "camping_trips"),
    bigUnsignedInt := ← ofJson (get "big_unsigned_int"), mask := ← ofJson (get "mask") }
  members scout :=
    [("id", toJson scout.id), ("full_name", toJson scout.fullName), ("short_name", toJson scout.shortName),
      ("birthdate", toJson scout.birthdate), ("join_time", toJson scout.joinTime),
      ("country_code", toJson scout.countryCode), ("language_code", toJson scout.languageCode),
      ("pack_code", toJson scout.packCode), ("rank", toJson scout.rank), ("badges", toJson scout.badges),
      ("favorite_songs", toJson scout.favoriteSongs), ("iana_country_code", toJson scout.ianaCountryCode),
      ("what_about_this", toJson scout.whatAboutThis), ("camping_trips", toJson scout.campingTrips),
      ("big_unsigned_int", toJson scout.bigUnsignedInt), ("mask", toJson scout.mask)]

instance : Shape BoyScout := BoyScout.layout.shape

def GirlScout.layout : Layout GirlScout where
  name := "GirlScout"
  fields := [field String "id"]
  assemble get := return ⟨← ofJson (get "id")⟩
  members scout := [("id", toJson scout.id)]

instance : Shape GirlScout := GirlScout.layout.shape

end EntityStore
