import EntityStore.Proofs.Roundtrip
import EntityStore.Proofs.Scouts.Portrayal
import EntityStore.Proofs.Scouts.Roster

/-! What the maps keep is what the mappings store: an update of rows is the merge of entities, and what is read from the
rows of an entity is that entity as it is kept. -/

namespace EntityStore
open Engine

/-- The elements of collections are read into an entity one collection after the other. -/
def Mapping.decodeParts {E : Type} (mapping : Mapping E) (entity : E) : Nat → List (List Value) → Except CodecError E
  | _, [] => .ok entity
  | index, values :: rest => do
      let entity ← mapping.decodeCollection entity index values
      mapping.decodeParts entity (index + 1) rest

/-- What is read of an entity from the rows that it is stored in. -/
def Placement.decoded {E : Type} {mapping : Mapping E} (placement : Placement mapping) (entity : E) :
    Except CodecError E := do
  let bare ← mapping.decodeRow (mapping.row entity)
  mapping.decodeParts bare 0 (placement.children.map fun child => placement.elements entity child.2)

structure Kind.Lawful {E : Type} {mapping : Mapping E} (kind : Kind E) (placement : Placement mapping)
    (Storable : E → Prop) : Prop where
  table : kind.table = mapping.schema.table
  id : kind.id = mapping.id
  id_merge : ∀ mask old new, mapping.id (kind.merge mask old new) = mapping.id old
  settled_merge : ∀ mask old new,
    kind.settled (kind.merge mask old new) = kind.merge mask (kind.settled old) (kind.settled new)
  storable_merge : ∀ mask {old new}, Storable old → Storable new → Storable (kind.merge mask old new)
  columns_merge : ∀ mask old new, mapping.encodeColumns (kind.merge mask old new) =
    (Choice.values (mapping.choices new mask)).zipWith Option.getD (mapping.encodeColumns old)
  elements_merge : ∀ mask old new, ∀ child ∈ placement.children, placement.elements (kind.merge mask old new) child.2 =
    placement.elements (if mask.included child.1 then new else old) child.2
  few : ∀ {entity}, Storable entity → ∀ child ∈ placement.children,
    (placement.elements entity child.2).length * 3 ≤ variableLimit
  reads : ∀ {entity}, Storable entity → placement.decoded entity = .ok (kind.settled entity)

theorem readColumn_eq {α : Type} [Scalar α] {row : Row} {index : Nat} {value : α}
    (found : row[index]? = some (Scalar.encode value)) :
    readColumn row index = (Scalar.decode (Scalar.encode value) : Except CodecError α) := by
  simp only [readColumn, Codec.column, found, bind, Except.bind]

theorem readColumn_encode {α : Type} [Scalar α] {row : Row} {index : Nat} {value result : α}
    (found : row[index]? = some (Scalar.encode value)) (read : Scalar.decode (Scalar.encode value) = .ok result) :
    readColumn row index = .ok result := (readColumn_eq found).trans read

theorem readColumn_text {row : Row} {index : Nat} {content : String}
    (found : row[index]? = some (Scalar.encode content)) : readColumn row index = .ok content :=
  readColumn_encode found (Scalar.faithful_text content)

namespace BoyScout

theorem columns_merge (mask : FieldMask) (old new : BoyScout) : encodeColumns (merge mask old new) =
    (Choice.values (mapping.choices new mask)).zipWith Option.getD (encodeColumns old) := by
  have choose (flag : Bool) (get : BoyScout → Value) :
      get (if flag then new else old) = (if flag then some (get new) else none).getD (get old) := by
    cases flag <;> rfl
  refine congrArg₂ List.cons (choose _ fun scout => Scalar.encode scout.fullName) ?_
  refine congrArg₂ List.cons (choose _ fun scout => Scalar.encode scout.shortName) ?_
  refine congrArg₂ List.cons (choose _ fun scout => Scalar.encode scout.birthdate) ?_
  refine congrArg₂ List.cons (choose _ fun scout => Scalar.encode scout.joinTime) ?_
  refine congrArg₂ List.cons (choose _ fun scout => Scalar.encode scout.countryCode) ?_
  refine congrArg₂ List.cons (choose _ fun scout => Scalar.encode scout.languageCode) ?_
  refine congrArg₂ List.cons (choose _ fun scout => Scalar.encode scout.packCode) ?_
  refine congrArg₂ List.cons (choose _ fun scout => Scalar.encode scout.rank) ?_
  refine congrArg₂ List.cons (choose _ fun scout => Scalar.encode scout.ianaCountryCode) ?_
  refine congrArg₂ List.cons (choose _ fun scout => Scalar.encode scout.whatAboutThis) ?_
  exact congrArg₂ List.cons (choose _ fun scout => Scalar.encode scout.bigUnsignedInt) rfl

theorem settled_merge (mask : FieldMask) (old new : BoyScout) :
    settled (merge mask old new) = merge mask (settled old) (settled new) := by
  have chosen (flag : Bool) : (if flag then settled new else settled old) = settled (if flag then new else old) := by
    cases flag <;> rfl
  simp only [merge, chosen]
  rfl

theorem storable_merge (mask : FieldMask) {old new : BoyScout} (first : old.Storable) (second : new.Storable) :
    (merge mask old new).Storable := by
  have chosen (field : String) : (if mask.included field then new else old).Storable := by
    split
    · exact second
    · exact first
  exact ⟨(chosen _).birthdate, (chosen _).campingTrips, (chosen _).badges_few, (chosen _).favoriteSongs_few,
    (chosen _).campingTrips_few, (chosen _).mask_few⟩

theorem Storable.compact {scout : BoyScout} (storable : scout.Storable) : scout.Compact := by
  obtain ⟨-, -, badges, songs, trips, fields⟩ := storable
  have limit : variableLimit = 32766 := rfl
  constructor <;> omega

theorem decodeRow_row {scout : BoyScout} (birthdate : ∀ date ∈ scout.birthdate, 0 ≤ date.month ∧ 0 ≤ date.day) :
    decodeRow (mapping.row scout) =
      .ok { scout.settled with badges := [], favoriteSongs := [], campingTrips := [], mask := [] } := by
  have id : readColumn (mapping.row scout) 0 = .ok scout.id := readColumn_text rfl
  have fullName : readColumn (mapping.row scout) 1 = .ok scout.fullName := readColumn_text rfl
  have shortName : readColumn (mapping.row scout) 2 = .ok scout.shortName := readColumn_text rfl
  have born : readColumn (mapping.row scout) 3 = .ok scout.birthdate :=
    readColumn_encode rfl (Scalar.faithful_optionalDate birthdate)
  have joined : readColumn (mapping.row scout) 4 = .ok scout.settled.joinTime :=
    readColumn_encode rfl (Scalar.decode_time scout.joinTime)
  have country : readColumn (mapping.row scout) 5 = .ok scout.countryCode := readColumn_text rfl
  have language : readColumn (mapping.row scout) 6 = .ok scout.languageCode := readColumn_text rfl
  have pack : readColumn (mapping.row scout) 7 = .ok scout.packCode := readColumn_encode rfl (Scalar.faithful_uint32 _)
  have rank : readColumn (mapping.row scout) 8 = .ok scout.rank := readColumn_encode rfl (Scalar.faithful_rank _)
  have iana : readColumn (mapping.row scout) 9 = .ok scout.ianaCountryCode := readColumn_text rfl
  have what : readColumn (mapping.row scout) 10 = .ok scout.whatAboutThis :=
    readColumn_encode rfl (Scalar.faithful_int64 _)
  have big : readColumn (mapping.row scout) 11 = .ok scout.bigUnsignedInt :=
    readColumn_encode rfl (Scalar.faithful_uint64 _)
  simp only [decodeRow, id, fullName, shortName, born, joined, country, language, pack, rank, iana, what, big, bind,
    Except.bind, pure, Except.pure]
  rfl

/-- A scout with one of its collections taken from another. -/
def restored (scout found : BoyScout) : Nat → BoyScout
  | 0 => { found with badges := scout.badges }
  | 1 => { found with favoriteSongs := scout.favoriteSongs }
  | 2 => { found with campingTrips := scout.campingTrips }
  | 3 => { found with mask := scout.mask }
  | _ => found

theorem decodeCollection_encode {scout : BoyScout}
    (campingTrips : ∀ date ∈ scout.campingTrips, 0 ≤ date.month ∧ 0 ≤ date.day) (found : BoyScout) (place : Nat) :
    decodeCollection found place (encodeCollection scout place) = .ok (scout.restored found place) := by
  have badges := Scalar.decodeAll_badges scout.badges
  have songs := Scalar.decodeAll_texts scout.favoriteSongs
  have trips : Codec.decodeAll (scout.campingTrips.map Scalar.encode) = .ok scout.campingTrips := by
    refine Scalar.decodeAll_encode fun trip member => ?_
    obtain ⟨month, day⟩ := campingTrips trip member
    exact Scalar.faithful_date month day
  have fields := Scalar.decodeAll_texts scout.mask
  match place with
  | 0 => simp only [decodeCollection, encodeCollection, badges, restored, bind, Except.bind, pure, Except.pure]
  | 1 => simp only [decodeCollection, encodeCollection, songs, restored, bind, Except.bind, pure, Except.pure]
  | 2 => simp only [decodeCollection, encodeCollection, trips, restored, bind, Except.bind, pure, Except.pure]
  | 3 => simp only [decodeCollection, encodeCollection, fields, restored, bind, Except.bind, pure, Except.pure]
  | _ + 4 => rfl

theorem decodeParts_elements {scout : BoyScout}
    (campingTrips : ∀ date ∈ scout.campingTrips, 0 ≤ date.month ∧ 0 ≤ date.day) (bare : BoyScout) :
    mapping.decodeParts bare 0 (placement.children.map fun child => placement.elements scout child.2) =
      .ok { bare with
        badges := scout.badges, favoriteSongs := scout.favoriteSongs, campingTrips := scout.campingTrips,
        mask := scout.mask } := by
  have part (found : BoyScout) (place : Nat) : mapping.decodeCollection found place (encodeCollection scout place) =
      .ok (scout.restored found place) := decodeCollection_encode campingTrips found place
  change mapping.decodeParts bare 0 [encodeCollection scout 0, encodeCollection scout 1, encodeCollection scout 2,
    encodeCollection scout 3] = _
  simp only [Mapping.decodeParts, part, restored, bind, Except.bind]

theorem decoded_settled {scout : BoyScout} (birthdate : ∀ date ∈ scout.birthdate, 0 ≤ date.month ∧ 0 ≤ date.day)
    (campingTrips : ∀ date ∈ scout.campingTrips, 0 ≤ date.month ∧ 0 ≤ date.day) :
    placement.decoded scout = .ok scout.settled := by
  have row : mapping.decodeRow (mapping.row scout) = _ := decodeRow_row birthdate
  rw [Placement.decoded, row]
  exact decodeParts_elements campingTrips _

/-- A date of birth that was read had no sign before its month or its day. -/
theorem nonneg_of_decodeRow {scout bare : BoyScout} (read : decodeRow (mapping.row scout) = .ok bare) :
    ∀ date ∈ scout.birthdate, 0 ≤ date.month ∧ 0 ≤ date.day := by
  obtain ⟨_, -, read⟩ := bind_eq_ok.mp read
  obtain ⟨_, -, read⟩ := bind_eq_ok.mp read
  obtain ⟨_, -, read⟩ := bind_eq_ok.mp read
  obtain ⟨born, found, -⟩ := bind_eq_ok.mp read
  intro date known
  have found : Scalar.decode (Scalar.encode scout.birthdate) = Except.ok born := found
  rw [Option.mem_def.mp known] at found
  have found : some <$> Scalar.decode (Scalar.encode date) = Except.ok born := found
  cases read : (Scalar.decode (Scalar.encode date) : Except CodecError Date) with
  | error error =>
    rw [read] at found
    cases found
  | ok other => exact Scalar.nonneg_of_decode read

theorem nonneg_of_decodeParts {scout bare found : BoyScout}
    (read : mapping.decodeParts bare 0 (placement.children.map fun child => placement.elements scout child.2) =
      .ok found) : ∀ date ∈ scout.campingTrips, 0 ≤ date.month ∧ 0 ≤ date.day := by
  obtain ⟨_, -, read⟩ := bind_eq_ok.mp read
  obtain ⟨_, -, read⟩ := bind_eq_ok.mp read
  obtain ⟨third, trips, -⟩ := bind_eq_ok.mp read
  obtain ⟨dates, decoded, -⟩ := bind_eq_ok.mp trips
  intro date known
  have inside : Scalar.encode date ∈ scout.campingTrips.map Scalar.encode := List.mem_map_of_mem known
  obtain ⟨other, read⟩ := Scalar.decode_of_decodeAll decoded _ inside
  exact Scalar.nonneg_of_decode read

/-- Whatever is read of a scout is the scout, but for what is below a microsecond. -/
theorem eq_settled_of_decoded {scout found : BoyScout} (read : placement.decoded scout = .ok found) :
    found = scout.settled := by
  obtain ⟨bare, row, parts⟩ := bind_eq_ok.mp read
  have whole := decoded_settled (nonneg_of_decodeRow row) (nonneg_of_decodeParts parts)
  exact Except.ok.inj (read.symm.trans whole)

theorem lawful : kind.Lawful placement BoyScout.Storable where
  table := rfl
  id := rfl
  id_merge _ _ _ := rfl
  settled_merge := settled_merge
  storable_merge mask _ _ first second := storable_merge mask first second
  columns_merge := columns_merge
  elements_merge mask old new child member := by
    simp only [placement, List.mem_cons, List.not_mem_nil, or_false] at member
    rcases member with rfl | rfl | rfl | rfl <;> rfl
  few storable := storable.compact.few
  reads storable := decoded_settled storable.birthdate storable.campingTrips

end BoyScout

theorem GirlScout.decoded_self (scout : GirlScout) : GirlScout.placement.decoded scout = .ok scout := by
  have id : readColumn (mapping.row scout) 0 = .ok scout.id := readColumn_encode rfl (Scalar.faithful_text scout.id)
  have row : mapping.decodeRow (mapping.row scout) = .ok scout := by
    change (do return (⟨← readColumn (mapping.row scout) 0⟩ : GirlScout)) = Except.ok scout
    rw [id]
    rfl
  rw [Placement.decoded, row]
  rfl

theorem GirlScout.lawful : GirlScout.kind.Lawful GirlScout.placement fun _ => True where
  table := rfl
  id := rfl
  id_merge _ _ _ := rfl
  settled_merge _ _ _ := rfl
  storable_merge _ _ _ _ _ := trivial
  columns_merge _ _ _ := rfl
  elements_merge _ _ _ child member := by cases member
  few {scout} _ := scout.few
  reads _ := decoded_self _

end EntityStore
