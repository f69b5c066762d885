import EntityStore.Proofs.Scouts.Kinds
import EntityStore.Proofs.Timestamps

/-! What the mapping of boy scouts reads of its own values. The row gives back the scalar fields, and the collections
can be read in any order, since each of them sets a field of its own. -/

namespace EntityStore

def Mapping.decodeCollections {E : Type} (mapping : Mapping E) (entity found : E) (places : List Nat) :
    Except CodecError E :=
  places.foldlM (fun found place => mapping.decodeCollection found place (mapping.encodeCollection entity place)) found

namespace BoyScout

/-- A scout with the moment of joining cut to whole microseconds. -/
def truncated (scout : BoyScout) : BoyScout :=
  { scout with joinTime := scout.joinTime.map Timestamp.truncated }

theorem settled_of_regular {scout : BoyScout} (regular : ∀ time ∈ scout.joinTime, time.Regular) :
    scout.settled = scout.truncated := by
  have times : scout.joinTime.map (fun time => Timestamp.fromMicros time.asMicros) =
      scout.joinTime.map Timestamp.truncated :=
    Option.map_congr fun time member => Timestamp.fromMicros_asMicros (regular time member)
  rw [settled, times, truncated]

theorem decodeCollections_eq {scout : BoyScout}
    (campingTrips : ∀ date ∈ scout.campingTrips, 0 ≤ date.month ∧ 0 ≤ date.day) (places : List Nat) (found : BoyScout) :
    mapping.decodeCollections scout found places = .ok { found with
      badges := if 0 ∈ places then scout.badges else found.badges
      favoriteSongs := if 1 ∈ places then scout.favoriteSongs else found.favoriteSongs
      campingTrips := if 2 ∈ places then scout.campingTrips else found.campingTrips
      mask := if 3 ∈ places then scout.mask else found.mask } := by
  induction places generalizing found with
  | nil => rfl
  | cons place rest ih =>
    have here := decodeCollection_encode campingTrips found place
    have step : mapping.decodeCollections scout found (place :: rest) =
        mapping.decodeCollections scout (scout.restored found place) rest := by
      change (decodeCollection found place (encodeCollection scout place) >>= fun found =>
        mapping.decodeCollections scout found rest) = _
      rw [here]
      rfl
    rw [step, ih]
    match place with
    | 0 | 1 | 2 | 3 | _ + 4 => simp [restored]

/-- A scout is read back from its own values as it was, but for what the moment of joining has below a microsecond. -/
theorem decode_encode (scout : BoyScout) (birthdate : ∀ date ∈ scout.birthdate, 0 ≤ date.month ∧ 0 ≤ date.day)
    (campingTrips : ∀ date ∈ scout.campingTrips, 0 ≤ date.month ∧ 0 ≤ date.day)
    (joinTime : ∀ time ∈ scout.joinTime, time.Regular) :
    ∃ bare, mapping.decodeRow (Codec.encodeText scout.id :: mapping.encodeColumns scout) = .ok bare ∧
      ∀ places : List Nat, places.Perm [0, 1, 2, 3] →
        mapping.decodeCollections scout bare places = .ok scout.truncated := by
  refine ⟨_, decodeRow_row birthdate, fun places order => ?_⟩
  have first : 0 ∈ places := order.mem_iff.mpr (by decide)
  have second : 1 ∈ places := order.mem_iff.mpr (by decide)
  have third : 2 ∈ places := order.mem_iff.mpr (by decide)
  have fourth : 3 ∈ places := order.mem_iff.mpr (by decide)
  rw [decodeCollections_eq campingTrips, if_pos first, if_pos second, if_pos third, if_pos fourth,
    ← settled_of_regular joinTime]
  rfl

/-- A scout born before the year zero who joined in the lowest second that does not saturate. -/
theorem decode_encode_early :
    let scout : BoyScout :=
      { id := "s-1", birthdate := some ⟨-44, 3, 15⟩, joinTime := some ⟨-9223372036854, 999999999⟩, rank := .eagle
        badges := [.camping, .knots], campingTrips := [⟨12345, 0, 31⟩], bigUnsignedInt := 18446744073709551615 }
    ∃ bare, mapping.decodeRow (Codec.encodeText "s-1" :: mapping.encodeColumns scout) = .ok bare ∧
      mapping.decodeCollections scout bare [2, 0, 3, 1] =
        .ok { scout with joinTime := some ⟨-9223372036854, 999999000⟩ } := by
  intro scout
  have regular : ∀ time ∈ scout.joinTime, time.Regular := by
    rintro time ⟨⟩
    exact ⟨by decide, by decide, by decide, by decide⟩
  have birthdate : ∀ date ∈ scout.birthdate, 0 ≤ date.month ∧ 0 ≤ date.day := by
    rintro date ⟨⟩
    decide
  obtain ⟨bare, row, rest⟩ := decode_encode scout birthdate (by decide) regular
  exact ⟨bare, row, rest [2, 0, 3, 1] (by decide)⟩

end BoyScout
end EntityStore
