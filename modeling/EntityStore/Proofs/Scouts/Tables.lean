import EntityStore.Migration
import EntityStore.Proofs.Engine.Storing
import Mathlib.Logic.Function.Basic

/-! The tables of the scouts with any rows in them. What the engine looks up by name in such a database does not depend
on the rows: every table is found, every reference leads to the parent it names, and the names that statements use are
those of the columns. -/

namespace EntityStore
open Engine

inductive ScoutTable where
  | boyScout
  | badges
  | favoriteSongs
  | campingTrips
  | mask
  | girlScout
  deriving DecidableEq

namespace ScoutTable

def all : List ScoutTable := [.boyScout, .badges, .favoriteSongs, .campingTrips, .mask, .girlScout]

/-- The tables whose rows belong to boy scouts. -/
def collections : List ScoutTable := [.badges, .favoriteSongs, .campingTrips, .mask]

/-- The table as its migration leaves it. -/
def blank : ScoutTable → Table
  | .boyScout => { Migration.boyScout with page := 2 }
  | .badges => { Migration.badges with page := 4 }
  | .favoriteSongs => { Migration.favoriteSongs with page := 6 }
  | .campingTrips => { Migration.campingTrips with page := 8 }
  | .mask => { Migration.mask with page := 10 }
  | .girlScout => { Migration.girlScout with page := 12 }

def name (t : ScoutTable) : String := t.blank.name

def columns (t : ScoutTable) : List Engine.Column := t.blank.columns

def key : ScoutTable → Key
  | .boyScout | .girlScout => ⟨[0], true⟩
  | .badges | .favoriteSongs | .campingTrips | .mask => ⟨[0, 1], true⟩

def reference : Reference := ⟨0, ScoutTable.boyScout.name, some "id"⟩

theorem sameName_name (t u : ScoutTable) : sameName t.name u.name = decide (t = u) := by
  cases t <;> cases u <;> decide +kernel

theorem references_eq (t : ScoutTable) : t.blank.references = if t ∈ collections then [reference] else [] := by
  cases t <;> rfl

theorem referred?_boyScout : boyScout.blank.referred? reference = some 0 := by decide +kernel

end ScoutTable

abbrev Contents := ScoutTable → List Entry

namespace Contents
variable (contents : Contents)

def table (t : ScoutTable) : Table := { t.blank with entries := contents t }

/-- A migrated database with these entries in it. -/
def database : Database := ⟨1, ScoutTable.all.map fun t => .table (contents.table t)⟩

theorem table_keyedBy (t : ScoutTable) : (contents.table t).KeyedBy t.key := by cases t <;> exact ⟨rfl, rfl⟩

theorem item?_name (t : ScoutTable) : contents.database.item? t.name = some (.table (contents.table t)) := by
  have found : ScoutTable.all.find? (fun u => sameName u.name t.name) = some t := by
    simp only [ScoutTable.sameName_name]
    cases t <;> rfl
  unfold Database.item? database
  rw [List.find?_map]
  exact congrArg (Option.map _) found

theorem table?_name (t : ScoutTable) : contents.database.table? t.name = some (contents.table t) := by
  rw [Database.table?, contents.item?_name]
  rfl

theorem writable_name (t : ScoutTable) : contents.database.writable t.name = .ok (contents.table t) := by
  simp only [Database.writable, Database.tableOr, contents.item?_name]

theorem source_name (t : ScoutTable) (condition : Option (String × Value)) :
    contents.database.source t.name condition = .ok (contents.table t).toRelation := by
  simp only [Database.source, contents.item?_name]

theorem setEntries_name (t : ScoutTable) (entries : List Entry) :
    contents.database.setEntries t.name entries = Contents.database (Function.update contents t entries) := by
  unfold Database.setEntries database
  refine congrArg (Database.mk 1) ?_
  rw [List.map_map]
  refine List.map_congr_left fun u _ => ?_
  have same : sameName (Item.table (contents.table u)).name t.name = decide (u = t) := ScoutTable.sameName_name u t
  simp only [Function.comp_apply, same]
  by_cases equal : u = t
  · subst equal
    simp [Item.mapTable, table]
  · simp [equal, table]

theorem referencesTo_name (t u : ScoutTable) :
    (contents.table t).referencesTo u.name =
      if t ∈ ScoutTable.collections ∧ u = .boyScout then [ScoutTable.reference] else [] := by
  have references : (contents.table t).references = t.blank.references := rfl
  have parent : sameName ScoutTable.reference.parent u.name = decide (ScoutTable.boyScout = u) :=
    ScoutTable.sameName_name .boyScout u
  unfold Table.referencesTo
  rw [references, ScoutTable.references_eq]
  by_cases inside : t ∈ ScoutTable.collections
  · by_cases same : ScoutTable.boyScout = u
    · subst same
      simp [inside, parent]
    · simp [inside, parent, same, Ne.symm same]
  · simp [inside]

/-- The collections refer to boy scouts, and nothing else refers to anything. -/
theorem referring_name (t : ScoutTable) :
    contents.database.referring t.name =
      if t = .boyScout then
        ScoutTable.collections.reverse.map fun child => (contents.table child, ScoutTable.reference)
      else [] := by
  have tables : contents.database.tables = ScoutTable.all.map contents.table := rfl
  unfold Database.referring
  rw [tables, ← List.map_reverse, List.flatMap_map]
  simp only [contents.referencesTo_name]
  by_cases same : t = .boyScout
  · subst same
    rfl
  · simp [same]

theorem requireReferred_ok (child : ScoutTable) :
    Database.requireReferred (contents.table child) ScoutTable.reference (contents.table .boyScout) = .ok () := by
  have referred : (contents.table .boyScout).referred? ScoutTable.reference = some 0 := ScoutTable.referred?_boyScout
  rw [Database.requireReferred, referred]
  rfl

theorem requireParents_ok (t : ScoutTable) (touched : Nat → Bool) :
    contents.database.requireParents (contents.table t) touched = .ok () := by
  have references : (contents.table t).references = t.blank.references := rfl
  have parent : contents.database.item? ScoutTable.reference.parent = some (.table (contents.table .boyScout)) :=
    contents.item?_name .boyScout
  unfold Database.requireParents
  rw [references, ScoutTable.references_eq]
  split
  · rw [List.reverse_singleton, List.forM_eq_forM, List.forM_cons, List.forM_nil, bind_pure_unit]
    simp only [parent, contents.requireReferred_ok, ite_self]
  · rfl

theorem requireChildren_ok (t : ScoutTable) (touched : Nat → Bool) :
    contents.database.requireChildren (contents.table t) touched = .ok () := by
  have name : (contents.table t).name = t.name := rfl
  unfold Database.requireChildren
  rw [name, contents.referring_name]
  split
  · subst t
    generalize ScoutTable.collections.reverse = children
    rw [List.forM_eq_forM]
    induction children with
    | nil => rfl
    | cons child rest ih =>
      rw [List.map_cons, List.forM_cons]
      simp only [contents.requireReferred_ok, ite_self]
      exact ih
  · rfl

theorem requireReferences_ok (t : ScoutTable) (touched : Nat → Bool) :
    contents.database.requireReferences (contents.table t) touched = .ok () := by
  simp only [Database.requireReferences, contents.requireParents_ok, contents.requireChildren_ok]
  rfl

variable {contents} {t : ScoutTable} {touched : Nat → Bool}

theorem hasParent_eq (value : Value) :
    contents.database.hasParent ScoutTable.reference value =
      (value == .null || (contents .boyScout).any fun entry => (cell entry.values 0).same value) := by
  have parent : contents.database.table? ScoutTable.reference.parent = some (contents.table .boyScout) :=
    contents.table?_name .boyScout
  have referred : (contents.table .boyScout).referred? ScoutTable.reference = some 0 := ScoutTable.referred?_boyScout
  simp only [Database.hasParent, parent, referred]
  rfl

/-- Rows of collections lack a parent or not, and other rows lack none. -/
theorem missing_eq (t : ScoutTable) (touched : Nat → Bool) (row : Row) :
    (contents.database.references (contents.table t) touched).missing row =
      if t ∈ ScoutTable.collections ∧ touched 0 = true ∧
        contents.database.hasParent ScoutTable.reference (cell row 0) = false then 1 else 0 := by
  have references : (contents.table t).references = t.blank.references := rfl
  simp only [Database.references, references, ScoutTable.references_eq]
  by_cases inside : t ∈ ScoutTable.collections
  · rw [if_pos inside]
    by_cases meant : touched 0 = true
    · rw [List.filter_cons_of_pos (by exact meant), List.filter_nil]
      have column : ScoutTable.reference.column = 0 := rfl
      rw [List.countP_cons, List.countP_nil, column]
      cases contents.database.hasParent ScoutTable.reference (cell row 0) <;> simp [inside, meant]
    · rw [List.filter_cons_of_neg (by exact meant)]
      simp [meant]
  · simp [inside]

theorem referringColumns_eq (t : ScoutTable) (touched : Nat → Bool) :
    contents.database.referringColumns (contents.table t) touched =
      if t = .boyScout ∧ touched 0 = true then
        ScoutTable.collections.reverse.map fun child => (contents.table child, 0, 0)
      else [] := by
  have name : (contents.table t).name = t.name := rfl
  have referred : (contents.table .boyScout).referred? ScoutTable.reference = some 0 := ScoutTable.referred?_boyScout
  rw [Database.referringColumns, name, contents.referring_name]
  by_cases same : t = .boyScout
  · subst same
    by_cases meant : touched 0 = true
    · simp only [if_true, true_and, if_pos meant, List.filterMap_map]
      refine List.filterMap_eq_map_iff_forall_eq_some.mpr fun child _ => ?_
      simp only [Function.comp_apply, referred, if_pos meant]
      rfl
    · simp only [if_true, true_and, if_neg meant, List.filterMap_map]
      refine List.filterMap_eq_nil_iff.mpr fun child _ => ?_
      simp only [Function.comp_apply, referred, if_neg meant]
  · simp only [same, false_and, if_false]
    rfl

/-- Only boy scouts have rows that refer to them. -/
theorem children_eq_zero (t : ScoutTable) (touched : Nat → Bool) (row : Row) :
    (contents.database.references (contents.table t) touched).children row = 0 ↔
      (t = .boyScout → touched 0 = true → ∀ child ∈ ScoutTable.collections, ∀ entry ∈ contents child,
        (cell entry.values 0).same (cell row 0) = false) := by
  have fold (counts : List Nat) (start : Nat) :
      counts.foldl (· + ·) start = 0 ↔ start = 0 ∧ ∀ count ∈ counts, count = 0 := by
    induction counts generalizing start with
    | nil => simp
    | cons count rest ih =>
      rw [List.foldl_cons, ih]
      simp only [List.mem_cons, forall_eq_or_imp, Nat.add_eq_zero_iff]
      exact and_assoc
  have none (child : ScoutTable) :
      ((contents.table child).entries.countP fun entry => (cell entry.values 0).same (cell row 0)) = 0 ↔
        ∀ entry ∈ contents child, (cell entry.values 0).same (cell row 0) = false := by
    simp only [List.countP_eq_zero, Bool.not_eq_true]
    rfl
  simp only [Database.references, referringColumns_eq, fold, true_and]
  by_cases meant : t = .boyScout ∧ touched 0 = true
  · rw [if_pos meant, List.map_map, List.forall_mem_map]
    simp only [Function.comp_apply, none, List.mem_reverse]
    exact ⟨fun free _ _ => free, fun free => free meant.1 meant.2⟩
  · simp only [if_neg meant, List.map_nil, List.not_mem_nil, false_imp_iff, implies_true, true_iff]
    exact fun same touches => absurd ⟨same, touches⟩ meant

end Contents
end EntityStore
