import Mathlib.Data.List.Forall2
import Mathlib.Data.List.Nodup
import Mathlib.Data.List.Perm.Basic
import Mathlib.Data.String.Basic
import EntityStore.Json.Shape

/-! Laws of JSON shapes. What is written is read as the same value, in whatever order the fields of its objects stand.
A record is read by the names of its fields: other fields, the order, and a field that is null but may be left out make
no difference, and an array of exactly its fields reads like the object. -/

namespace EntityStore

namespace Json

/-- Two values that differ at most in the order of fields, at any depth. -/
inductive Rearranged : Json → Json → Prop where
  | same (json : Json) : Rearranged json json
  | array {items others : List Json} (each : List.Forall₂ Rearranged items others) :
      Rearranged (.array items) (.array others)
  | object {fields middle others : List (String × Json)} (names : fields.map Prod.fst = middle.map Prod.fst)
      (values : List.Forall₂ Rearranged (fields.map Prod.snd) (middle.map Prod.snd)) (reordered : middle.Perm others) :
      Rearranged (.object fields) (.object others)

namespace Rearranged
variable {json : Json}

theorem eq_null (rearranged : Rearranged json .null) : json = .null := by
  cases rearranged
  rfl

theorem of_array {items : List Json} (rearranged : Rearranged (.array items) json) :
    ∃ others, json = .array others ∧ List.Forall₂ Rearranged items others := by
  cases rearranged with
  | same => exact ⟨items, rfl, List.forall₂_same.mpr fun item _ => .same item⟩
  | array each => exact ⟨_, rfl, each⟩

theorem of_paired {fields middle : List (String × Json)} (names : fields.map Prod.fst = middle.map Prod.fst)
    (values : List.Forall₂ Rearranged (fields.map Prod.snd) (middle.map Prod.snd)) :
    ∀ entry ∈ middle, ∃ field ∈ fields, field.1 = entry.1 ∧ field.2.Rearranged entry.2 := by
  induction fields generalizing middle with
  | nil =>
    cases middle with
    | nil => exact List.forall_mem_nil _
    | cons entry rest => cases names
  | cons field others ih =>
    cases middle with
    | nil => cases names
    | cons entry rest =>
      rw [List.map_cons, List.map_cons, List.cons.injEq] at names
      rw [List.map_cons, List.map_cons, List.forall₂_cons] at values
      rw [List.forall_mem_cons]
      refine ⟨⟨field, List.mem_cons_self, names.1, values.1⟩, fun later member => ?_⟩
      obtain ⟨found, inside, same⟩ := ih names.2 values.2 later member
      exact ⟨found, List.mem_cons_of_mem _ inside, same⟩

theorem of_object {fields : List (String × Json)} (rearranged : Rearranged (.object fields) json) :
    ∃ others, json = .object others ∧ (others.map Prod.fst).Perm (fields.map Prod.fst) ∧
      ∀ entry ∈ others, ∃ field ∈ fields, field.1 = entry.1 ∧ field.2.Rearranged entry.2 := by
  cases rearranged with
  | same => exact ⟨fields, rfl, .refl _, fun entry member => ⟨entry, member, rfl, .same _⟩⟩
  | @object _ middle others names values reordered =>
    refine ⟨others, rfl, ?_, fun entry member => of_paired names values entry (reordered.mem_iff.mpr member)⟩
    rw [names]
    exact (reordered.map Prod.fst).symm

end Rearranged

private theorem insertField_less {name other : String} (less : name < other) (value second : Json)
    (fields : List (String × Json)) :
    insertField other second (insertField name value fields) = insertField name value (insertField other second fields) := by
  induction fields with
  | nil => simp [insertField, less, less.not_gt, less.ne']
  | cons field rest ih =>
    rcases lt_trichotomy name field.1 with before | rfl | after
    · rcases lt_trichotomy other field.1 with before' | rfl | after'
      · simp [insertField, less, less.not_gt, less.ne', before, before']
      · simp [insertField, less, less.not_gt, less.ne']
      · simp [insertField, less.not_gt, less.ne', before, after'.not_gt, after'.ne']
    · simp [insertField, less.not_gt, less.ne']
    · have later := after.trans less
      simp [insertField, after.not_gt, after.ne', later.not_gt, later.ne', ih]

theorem insertField_comm {name other : String} (apart : name ≠ other) (value second : Json)
    (fields : List (String × Json)) :
    insertField other second (insertField name value fields) = insertField name value (insertField other second fields) := by
  rcases lt_or_gt_of_ne apart with less | greater
  · exact insertField_less less value second fields
  · exact (insertField_less greater second value fields).symm

theorem ofFields_perm {given others : List (String × Json)} (reordered : given.Perm others)
    (distinct : (given.map Prod.fst).Nodup) : ofFields given = ofFields others := by
  refine congrArg Json.object (reordered.foldl_eq' (fun first inside second within sorted => ?_) [])
  rcases eq_or_ne first.1 second.1 with same | apart
  · rw [List.inj_on_of_nodup_map distinct inside within same]
  · exact insertField_comm apart _ _ _

end Json

namespace Shape

/-- Two readings that give the same value, if any. Errors may differ in which of them is found first. -/
def Alike (first second : Except ShapeError α) : Prop := ∀ value, first = .ok value ↔ second = .ok value

/-- What is written is read as the same value, whatever the order of fields. -/
class Lawful (α : Type) [Shape α] : Prop where
  reads (value : α) {json : Json} (rearranged : (toJson value).Rearranged json) : ofJson json = .ok value
  null : optional α = true → ∃ value : α, ofJson .null = .ok value

instance : Lawful String where
  reads _ _ rearranged := by
    cases rearranged
    rfl
  null := nofun

/-- A type whose values are written as the integers of a range. -/
theorem lawful_integers [Shape α] {name : String} {range : IntRange} {ofInt : Int → α} (toInt : α → Int)
    (read : (ofJson : Json → Except ShapeError α) = integer name range ofInt)
    (written : ∀ value : α, toJson value = .integer (toInt value)) (required : optional α = false)
    (inside : ∀ value, toInt value ∈ range) (back : ∀ value, ofInt (toInt value) = value) : Lawful α where
  reads value json rearranged := by
    rw [written] at rearranged
    cases rearranged
    rw [read, integer, if_pos (inside value), back]
  null absent := by
    rw [required] at absent
    cases absent

instance : Lawful Int32 :=
  lawful_integers Int32.toInt rfl (fun _ => rfl) rfl
    (fun value => ⟨value.le_toInt, Int.le_of_lt_add_one value.toInt_lt⟩) Int32.ofInt_toInt

instance : Lawful Int64 :=
  lawful_integers Int64.toInt rfl (fun _ => rfl) rfl
    (fun value => ⟨value.le_toInt, Int.le_of_lt_add_one value.toInt_lt⟩) Int64.ofInt_toInt

instance : Lawful UInt32 :=
  lawful_integers (fun value => (value.toNat : Int)) rfl (fun _ => rfl) rfl
    (fun value => ⟨Int.natCast_nonneg _, Int.le_of_lt_add_one (Int.ofNat_lt.mpr value.toNat_lt)⟩)
    fun _ => UInt32.ofNat_toNat

instance : Lawful UInt64 :=
  lawful_integers (fun value => (value.toNat : Int)) rfl (fun _ => rfl) rfl
    (fun value => ⟨Int.natCast_nonneg _, Int.le_of_lt_add_one (Int.ofNat_lt.mpr value.toNat_lt)⟩)
    fun _ => UInt64.ofNat_toNat

/-- A type that has a null of its own cannot be told from one that is left out. -/
theorem lawful_option [Shape α] [Lawful α] (solid : ∀ value : α, toJson value ≠ .null) : Lawful (Option α) where
  reads value json rearranged := by
    cases value with
    | none =>
      cases rearranged
      rfl
    | some value =>
      have read := Lawful.reads value rearranged
      cases json with
      | null => exact absurd rearranged.eq_null (solid value)
      | bool | integer | real | string | array | object => exact congrArg (some <$> ·) read
  null _ := ⟨none, rfl⟩

theorem items_reads [Shape α] [Lawful α] {values : List α} {list : List Json}
    (rearranged : List.Forall₂ Json.Rearranged (values.map toJson) list) : items list = .ok values := by
  induction values generalizing list with
  | nil =>
    cases rearranged
    rfl
  | cons value rest ih =>
    cases rearranged with
    | cons first others => rw [items, Lawful.reads value first, ih others]; rfl

instance [Shape α] [Lawful α] : Lawful (List α) where
  reads values json rearranged := by
    obtain ⟨list, rfl, each⟩ := rearranged.of_array
    exact items_reads each
  null := nofun

theorem lawful_variant [Variant α] (known : ∀ value : α, Variant.ofWord? (Variant.word value) = some value) :
    Lawful α where
  reads value json rearranged := by
    cases rearranged
    change instOfVariant.variant (Variant.word value) = _
    rw [instOfVariant.variant, known]
  null := nofun

theorem forM_eq_ok {check : β → Except ShapeError Unit} {list : List β} :
    list.forM check = .ok () ↔ ∀ item ∈ list, check item = .ok () := by
  induction list with
  | nil => exact iff_of_true rfl (List.forall_mem_nil _)
  | cons item rest ih =>
    rw [List.forall_mem_cons, ← ih, List.forM_eq_forM, List.forM_cons]
    cases check item with
    | error => simp [Bind.bind, Except.bind]
    | ok => simp [Bind.bind, Except.bind]

theorem forM_congr {check other : β → Except ShapeError Unit} {list : List β}
    (same : ∀ item ∈ list, check item = other item) : list.forM check = list.forM other := by
  induction list with
  | nil => rfl
  | cons item rest ih =>
    rw [List.forall_mem_cons] at same
    rw [List.forM_eq_forM, List.forM_cons, List.forM_cons, same.1]
    exact congrArg _ (funext fun _ => ih same.2)

theorem forM_filter {check : β → Except ShapeError Unit} {keep : β → Bool} {list : List β}
    (passes : ∀ item, keep item = false → check item = .ok ()) : (list.filter keep).forM check = list.forM check := by
  induction list with
  | nil => rfl
  | cons item rest ih =>
    rcases kept : keep item with _ | _
    · rw [List.filter_cons_of_neg (by simp [kept]), ih, List.forM_eq_forM, List.forM_cons, passes item kept]
      rfl
    · rw [List.filter_cons_of_pos kept, List.forM_eq_forM, List.forM_cons, List.forM_cons]
      exact congrArg _ (funext fun _ => ih)

section Checks
variable {known : List Field} {given others : List (String × Json)}

theorem find_field (distinct : (known.map Field.name).Nodup) {field : Field} (member : field ∈ known) :
    known.find? (·.name == field.name) = some field := by
  have found : (known.find? (·.name == field.name)).isSome = true := by
    rw [List.find?_isSome]
    exact ⟨field, member, beq_self_eq_true _⟩
  obtain ⟨other, same⟩ := Option.isSome_iff_exists.mp found
  have named := List.find?_some same
  rw [same, List.inj_on_of_nodup_map distinct (List.mem_of_find?_eq_some same) member (eq_of_beq named)]

theorem checkEntry_known (distinct : (known.map Field.name).Nodup) {field : Field} (member : field ∈ known)
    {entry : String × Json} (named : field.name = entry.1) : checkEntry known entry = field.check entry.2 := by
  rw [checkEntry, ← named, find_field distinct member]

theorem checkEntry_unknown {entry : String × Json} (unknown : entry.1 ∉ known.map Field.name) :
    checkEntry known entry = .ok () := by
  have missing : known.find? (·.name == entry.1) = none := by
    rw [List.find?_eq_none]
    intro field member named
    exact unknown (List.mem_map.mpr ⟨field, member, eq_of_beq named⟩)
  rw [checkEntry, missing]
  rfl

theorem checkPresent_eq_ok {field : Field} :
    checkPresent given field = .ok () ↔ field.optional = true ∨ field.name ∈ given.map Prod.fst := by
  unfold checkPresent
  split
  next present => exact iff_of_true rfl (by simpa using present)
  next missing => exact iff_of_false nofun (by simpa using missing)

theorem checkObject_eq_ok : checkObject known given = .ok () ↔
    (∀ entry ∈ given, checkEntry known entry = .ok ()) ∧
      ∀ field ∈ known, field.optional = true ∨ field.name ∈ given.map Prod.fst := by
  have first : (∀ entry ∈ given, checkEntry known entry = .ok ()) ↔ given.forM (checkEntry known) = .ok () :=
    forM_eq_ok.symm
  have second : (∀ field ∈ known, field.optional = true ∨ field.name ∈ given.map Prod.fst) ↔
      known.forM (checkPresent given) = .ok () :=
    (forall₂_congr fun _ _ => checkPresent_eq_ok.symm).trans forM_eq_ok.symm
  rw [first, second, checkObject]
  cases given.forM (checkEntry known) with
  | error => exact iff_of_false nofun (fun both => nomatch both.1)
  | ok => exact (and_iff_right rfl).symm

/-- Only the fields of known names are looked at. -/
theorem checkObject_filter :
    checkObject known (given.filter fun entry => entry.1 ∈ known.map Field.name) = checkObject known given := by
  have present (field : Field) (member : field ∈ known) :
      checkPresent (given.filter fun entry => entry.1 ∈ known.map Field.name) field = checkPresent given field := by
    have named : field.name ∈ known.map Field.name := List.mem_map_of_mem member
    have same : (given.filter fun entry => entry.1 ∈ known.map Field.name).any (·.1 == field.name) =
        given.any (·.1 == field.name) := by
      rw [List.any_filter]
      congr 1
      funext entry
      rcases eq_or_ne entry.1 field.name with here | there
      · simp [here, named]
      · simp [there]
    rw [checkPresent, same, checkPresent]
  rw [checkObject, checkObject, forM_congr present]
  refine congrArg (· >>= _) (forM_filter fun entry unknown => checkEntry_unknown ?_)
  simpa using unknown

theorem under_filter {names : List String} {name : String} (known : name ∈ names) :
    under (given.filter fun entry => entry.1 ∈ names) name = under given name := by
  unfold under
  congr 1
  induction given with
  | nil => rfl
  | cons entry rest ih =>
    rcases eq_or_ne name entry.1 with here | there
    · rw [List.filter_cons_of_pos (by simpa [← here] using known), List.lookup_cons, List.lookup_cons, here]
      simp
    · rw [List.lookup_cons, beq_false_of_ne there, ← ih, List.filter_cons]
      split
      · rw [List.lookup_cons, beq_false_of_ne there]
      · rfl

theorem under_of_mem (distinct : (given.map Prod.fst).Nodup) {entry : String × Json} (member : entry ∈ given) :
    under given entry.1 = entry.2 := by
  have found : given.lookup entry.1 = some entry.2 := by
    obtain ⟨before, after, rfl⟩ := List.append_of_mem member
    refine List.lookup_eq_some_iff.mpr ⟨before, after, rfl, fun other within => ?_⟩
    rw [List.map_append, List.map_cons, List.nodup_append] at distinct
    have apart := distinct.2.2 other.1 (List.mem_map_of_mem within) entry.1 List.mem_cons_self
    simpa using apart.symm
  rw [under, found]
  rfl

theorem lookup_of_not_mem {name : String} (missing : name ∉ given.map Prod.fst) : given.lookup name = none := by
  rw [List.lookup_eq_none_iff]
  intro entry member
  have apart : name ≠ entry.1 := fun same => missing (same ▸ List.mem_map_of_mem member)
  simpa using apart

theorem under_of_not_mem {name : String} (missing : name ∉ given.map Prod.fst) : under given name = .null := by
  rw [under, lookup_of_not_mem missing]
  rfl

theorem under_perm (reordered : given.Perm others) (distinct : (given.map Prod.fst).Nodup) :
    under given = under others := by
  have distinct' : (others.map Prod.fst).Nodup := (reordered.map Prod.fst).nodup_iff.mp distinct
  funext name
  by_cases member : name ∈ given.map Prod.fst
  · obtain ⟨entry, within, rfl⟩ := List.mem_map.mp member
    rw [under_of_mem distinct within, under_of_mem distinct' (reordered.mem_iff.mp within)]
  · have missing : name ∉ others.map Prod.fst := fun within => member ((reordered.map Prod.fst).mem_iff.mpr within)
    rw [under_of_not_mem member, under_of_not_mem missing]

/-- A field that is null may be left out if nothing is wrong with either. -/
theorem checkObject_omitted {before after : List (String × Json)} {name : String}
    (passes : checkEntry known (name, .null) = .ok ())
    (absent : ∀ field ∈ known, field.name = name → field.optional = true) :
    checkObject known (before ++ (name, .null) :: after) = checkObject known (before ++ after) := by
  have present (field : Field) (member : field ∈ known) :
      checkPresent (before ++ (name, .null) :: after) field = checkPresent (before ++ after) field := by
    rcases eq_or_ne field.name name with here | there
    · rw [checkPresent, checkPresent, absent field member here]
      rfl
    · rw [checkPresent, checkPresent, List.any_append, List.any_cons, beq_false_of_ne there.symm, Bool.false_or,
        ← List.any_append]
  rw [checkObject, checkObject, forM_congr present]
  refine congrArg (· >>= _) ?_
  rw [List.forM_eq_forM, List.forM_append, List.forM_append, List.forM_cons, passes]
  rfl

theorem under_omitted {before after : List (String × Json)} {name : String}
    (alone : name ∉ (before ++ after).map Prod.fst) :
    under (before ++ (name, .null) :: after) = under (before ++ after) := by
  funext other
  rcases eq_or_ne other name with rfl | there
  · rw [under_of_not_mem alone]
    rw [List.map_append, List.mem_append, not_or] at alone
    rw [under, List.lookup_append, lookup_of_not_mem alone.1, List.lookup_cons_self]
    rfl
  · rw [under, under, List.lookup_append, List.lookup_append, List.lookup_cons, beq_false_of_ne there]

/-- An array of exactly the fields is checked like an object of them. -/
theorem checkArray_eq {expected : String} {read : Nat} {values : List Json} (full : values.length = known.length) :
    checkArray expected read known values = (known.zip values).forM fun pair => pair.1.check pair.2 := by
  induction known generalizing read values with
  | nil =>
    rw [List.length_eq_zero_iff.mp full]
    rfl
  | cons field fields ih =>
    cases values with
    | nil => cases full
    | cons value rest =>
      rw [List.length_cons, List.length_cons, Nat.succ_inj] at full
      rw [checkArray, ih full, List.zip_cons_cons, List.forM_eq_forM, List.forM_cons]

theorem checkArray_length {expected : String} {read : Nat} {values : List Json}
    (passes : checkArray expected read known values = .ok ()) : values.length = known.length := by
  induction known generalizing read values with
  | nil =>
    cases values with
    | nil => rfl
    | cons value rest => cases passes
  | cons field fields ih =>
    cases values with
    | nil => cases passes
    | cons value rest =>
      rw [checkArray] at passes
      rcases checked : field.check value with error | _
      · rw [checked] at passes
        cases passes
      · rw [checked] at passes
        exact congrArg Nat.succ (ih passes)

theorem checkObject_zip (distinct : (known.map Field.name).Nodup) {values : List Json}
    (full : values.length = known.length) :
    checkObject known ((known.map Field.name).zip values) = (known.zip values).forM fun pair => pair.1.check pair.2 := by
  have entries (fields : List Field) (inside : ∀ field ∈ fields, field ∈ known) (values : List Json) :
      ((fields.map Field.name).zip values).forM (checkEntry known) =
        (fields.zip values).forM fun pair => pair.1.check pair.2 := by
    induction fields generalizing values with
    | nil => rfl
    | cons field rest ih =>
      cases values with
      | nil => rfl
      | cons value others =>
        rw [List.forall_mem_cons] at inside
        rw [List.map_cons, List.zip_cons_cons, List.zip_cons_cons, List.forM_eq_forM, List.forM_cons,
          checkEntry_known distinct inside.1 rfl, List.forM_eq_forM, List.forM_cons]
        exact congrArg _ (funext fun _ => ih inside.2 others)
  have present : known.forM (checkPresent ((known.map Field.name).zip values)) = .ok () := by
    rw [forM_eq_ok]
    intro field member
    rw [checkPresent_eq_ok, List.map_fst_zip (by simp [full])]
    exact .inr (List.mem_map_of_mem member)
  rw [checkObject, entries known (fun _ member => member), present]
  cases (known.zip values).forM fun pair => pair.1.check pair.2 <;> rfl

end Checks

namespace Field

/-- A field that may be left out takes null. -/
def TakesNull (field : Field) : Prop := field.optional = true → field.check .null = .ok ()

/-- A field passes what is written for it. -/
structure Fits (field : Field) (member : String × Json) : Prop where
  named : field.name = member.1
  passes {json : Json} : member.2.Rearranged json → field.check json = .ok ()

section
variable {fields : List Field} {members : List (String × Json)} (fits : List.Forall₂ Fits fields members)
include fits

theorem names_of_fits : members.map Prod.fst = fields.map Field.name := by
  induction fits with
  | nil => rfl
  | cons first _ ih => rw [List.map_cons, List.map_cons, first.named, ih]

theorem exists_fits {member : String × Json} (inside : member ∈ members) : ∃ field ∈ fields, field.Fits member := by
  induction fits with
  | nil => cases inside
  | cons first _ ih =>
    rcases List.mem_cons.mp inside with rfl | later
    · exact ⟨_, List.mem_cons_self, first⟩
    · obtain ⟨field, known, found⟩ := ih later
      exact ⟨field, List.mem_cons_of_mem _ known, found⟩

end
end Field

theorem takesNull_field [Shape α] [Lawful α] (name : String) : (field α name).TakesNull := by
  intro absent
  obtain ⟨value, read⟩ := Lawful.null absent
  simp only [field, read, Except.map]

theorem fits_field [Shape α] [Lawful α] (name : String) (value : α) : (field α name).Fits (name, toJson value) where
  named := rfl
  passes rearranged := by simp only [field, Lawful.reads value rearranged, Except.map]

/-- How the objects and arrays of a record type are read. -/
structure ReadsFields (α : Type) [Shape α] (names absent : List String) : Prop where
  /-- Fields of other names make no difference, whether the object is read or refused. -/
  unknown {given others : List (String × Json)}
    (same : (given.filter fun entry => entry.1 ∈ names) = others.filter fun entry => entry.1 ∈ names) :
    (ofJson (.object given) : Except ShapeError α) = ofJson (.object others)
  ordered {given others : List (String × Json)} (reordered : given.Perm others)
    (distinct : (given.map Prod.fst).Nodup) : Alike (ofJson (.object given) : Except ShapeError α) (ofJson (.object others))
  sorted {given others : List (String × Json)} (reordered : given.Perm others)
    (distinct : (given.map Prod.fst).Nodup) :
    (ofJson (Json.ofFields given) : Except ShapeError α) = ofJson (Json.ofFields others)
  omitted {before after : List (String × Json)} {name : String} (member : name ∈ absent)
    (alone : name ∉ (before ++ after).map Prod.fst) :
    (ofJson (.object (before ++ (name, .null) :: after)) : Except ShapeError α) = ofJson (.object (before ++ after))
  positional {values : List Json} (full : values.length = names.length) :
    (ofJson (.array values) : Except ShapeError α) = ofJson (.object (names.zip values))
  whole {values : List Json} {value : α} (read : ofJson (.array values) = .ok value) : values.length = names.length

namespace Layout
variable {layout : Layout α}

/-- What makes a layout one of the type: its fields have names of their own, take what is written for them, and are all
that is looked at. -/
structure Lawful (layout : Layout α) : Prop where
  distinct : (layout.fields.map Field.name).Nodup
  takesNull : ∀ field ∈ layout.fields, field.TakesNull
  fits (value : α) : List.Forall₂ Field.Fits layout.fields (layout.members value)
  reaches {get other : String → Json} (same : ∀ field ∈ layout.fields, get field.name = other field.name) :
    layout.assemble get = layout.assemble other
  assembles {value : α} {get : String → Json}
    (each : ∀ member ∈ layout.members value, member.2.Rearranged (get member.1)) : layout.assemble get = .ok value

theorem ofJson_object (given : List (String × Json)) :
    layout.shape.ofJson (.object given) =
      (checkObject layout.fields given >>= fun _ => layout.assemble (under given)) := by
  change (checkObject layout.fields given >>= _) >>= _ = _
  cases checkObject layout.fields given <;> rfl

theorem ofJson_array (values : List Json) :
    layout.shape.ofJson (.array values) =
      (checkArray (contents layout.name layout.fields) 0 layout.fields values >>= fun _ =>
        layout.assemble (under ((layout.fields.map Field.name).zip values))) := by
  change (checkArray _ 0 layout.fields values >>= _) >>= _ = _
  cases checkArray (contents layout.name layout.fields) 0 layout.fields values <;> rfl

theorem ofJson_object_eq_ok {given : List (String × Json)} {value : α} :
    layout.shape.ofJson (.object given) = .ok value ↔
      checkObject layout.fields given = .ok () ∧ layout.assemble (under given) = .ok value := by
  rw [ofJson_object]
  cases checkObject layout.fields given with
  | error => exact iff_of_false nofun (fun both => nomatch both.1)
  | ok => exact (and_iff_right rfl).symm

/-- An object is read by its checks and by what stands under the names of the fields. -/
theorem ofJson_object_congr {given others : List (String × Json)}
    (checks : checkObject layout.fields given = checkObject layout.fields others)
    (assembled : layout.assemble (under given) = layout.assemble (under others)) :
    layout.shape.ofJson (.object given) = layout.shape.ofJson (.object others) := by
  rw [ofJson_object, ofJson_object, checks, assembled]

theorem ordered {given others : List (String × Json)} (reordered : given.Perm others)
    (distinct : (given.map Prod.fst).Nodup) :
    Alike (layout.shape.ofJson (.object given)) (layout.shape.ofJson (.object others)) := by
  intro value
  have entries : (∀ entry ∈ given, checkEntry layout.fields entry = .ok ()) ↔
      ∀ entry ∈ others, checkEntry layout.fields entry = .ok () :=
    forall_congr' fun entry => imp_congr_left reordered.mem_iff
  have present (name : String) : name ∈ given.map Prod.fst ↔ name ∈ others.map Prod.fst :=
    (reordered.map Prod.fst).mem_iff
  have checks : checkObject layout.fields given = .ok () ↔ checkObject layout.fields others = .ok () := by
    simp only [checkObject_eq_ok, entries, present]
  rw [ofJson_object_eq_ok, ofJson_object_eq_ok, checks, under_perm reordered distinct]

theorem length_eq {values : List Json} {value : α} (read : layout.shape.ofJson (.array values) = .ok value) :
    values.length = (layout.fields.map Field.name).length := by
  rw [ofJson_array] at read
  rcases checked : checkArray (contents layout.name layout.fields) 0 layout.fields values with error | _
  · rw [checked] at read
    cases read
  · rw [List.length_map, checkArray_length checked]

namespace Lawful
variable (lawful : layout.Lawful)
include lawful

theorem names (value : α) : (layout.members value).map Prod.fst = layout.fields.map Field.name :=
  Field.names_of_fits (lawful.fits value)

/-- The fields of an object that was written, in any order, are those of the type and have what was written. -/
theorem reads (value : α) {json : Json} (rearranged : (Json.object (layout.members value)).Rearranged json) :
    layout.shape.ofJson json = .ok value := by
  obtain ⟨others, rfl, same, each⟩ := rearranged.of_object
  have own : ((layout.members value).map Prod.fst).Nodup := (lawful.names value).symm ▸ lawful.distinct
  have distinct : (others.map Prod.fst).Nodup := same.nodup_iff.mpr own
  rw [lawful.names value] at same
  refine ofJson_object_eq_ok.mpr ⟨checkObject_eq_ok.mpr ⟨fun entry member => ?_, fun field member => ?_⟩,
    lawful.assembles fun member inside => ?_⟩
  · obtain ⟨written, inside, named, rearranged⟩ := each entry member
    obtain ⟨field, known, fits⟩ := Field.exists_fits (lawful.fits value) inside
    rw [checkEntry_known lawful.distinct known (fits.named.trans named)]
    exact fits.passes rearranged
  · exact .inr (same.mem_iff.mpr (List.mem_map_of_mem member))
  · have known : member.1 ∈ others.map Prod.fst := by
      rw [same.mem_iff, ← lawful.names value]
      exact List.mem_map_of_mem inside
    obtain ⟨entry, within, named⟩ := List.mem_map.mp known
    obtain ⟨written, origin, named', rearranged⟩ := each entry within
    have unique := List.inj_on_of_nodup_map own origin inside (named'.trans named)
    rw [← named, under_of_mem distinct within, ← unique]
    exact rearranged

theorem shape : @Shape.Lawful α layout.shape :=
  letI := layout.shape
  ⟨lawful.reads, nofun⟩

theorem unknown {given others : List (String × Json)}
    (same : (given.filter fun entry => entry.1 ∈ layout.fields.map Field.name) =
      others.filter fun entry => entry.1 ∈ layout.fields.map Field.name) :
    layout.shape.ofJson (.object given) = layout.shape.ofJson (.object others) := by
  refine ofJson_object_congr ?_ (lawful.reaches fun field member => ?_)
  · rw [← checkObject_filter, same, checkObject_filter]
  · have known : field.name ∈ layout.fields.map Field.name := List.mem_map_of_mem member
    rw [← under_filter known, same, under_filter known]

theorem omitted {before after : List (String × Json)} {name : String}
    (member : name ∈ (layout.fields.filter Field.optional).map Field.name)
    (alone : name ∉ (before ++ after).map Prod.fst) :
    layout.shape.ofJson (.object (before ++ (name, .null) :: after)) = layout.shape.ofJson (.object (before ++ after)) := by
  obtain ⟨field, inside, rfl⟩ := List.mem_map.mp member
  obtain ⟨known, absent⟩ := List.mem_filter.mp inside
  refine ofJson_object_congr (checkObject_omitted ?_ fun other within named => ?_) ?_
  · rw [checkEntry_known lawful.distinct known rfl]
    exact lawful.takesNull field known absent
  · rw [List.inj_on_of_nodup_map lawful.distinct within known named, absent]
  · rw [under_omitted alone]

theorem positional {values : List Json} (full : values.length = (layout.fields.map Field.name).length) :
    layout.shape.ofJson (.array values) =
      layout.shape.ofJson (.object ((layout.fields.map Field.name).zip values)) := by
  rw [List.length_map] at full
  rw [ofJson_array, ofJson_object, checkArray_eq full, checkObject_zip lawful.distinct full]

theorem readsFields :
    @ReadsFields α layout.shape (layout.fields.map Field.name) ((layout.fields.filter Field.optional).map Field.name) :=
  letI := layout.shape
  { unknown := lawful.unknown
    ordered := ordered
    sorted := fun reordered distinct => by rw [Json.ofFields_perm reordered distinct]
    omitted := lawful.omitted
    positional := lawful.positional
    whole := length_eq }

end Lawful
end Layout
end Shape
end EntityStore
