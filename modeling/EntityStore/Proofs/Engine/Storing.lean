import EntityStore.Proofs.Engine.Keys
import EntityStore.Proofs.Engine.Placing
import Mathlib.Data.List.Forall2

/-! What changes do to the rows of a table with one key and no column for the numbers of its rows. The rows are told
apart from the entries that hold them: in what order entries stand and which numbers they have is nobody's concern. -/

namespace EntityStore.Engine

/-- A column keeps a value as it is, and may keep it. -/
def Column.Holds (column : Column) (value : Value) : Prop :=
  column.affinity.apply value = value ∧ (column.required = true → value ≠ .null)

def Fits (columns : List Column) (row : Row) : Prop := List.Forall₂ Column.Holds columns row

instance (column : Column) (value : Value) : Decidable (column.Holds value) := inferInstanceAs (Decidable (_ ∧ _))

instance (columns : List Column) (row : Row) : Decidable (Fits columns row) :=
  inferInstanceAs (Decidable (List.Forall₂ _ _ _))

theorem Fits.convert {relation : Relation} {row : Row} (fits : Fits relation.columns row) :
    relation.convert row = row := by
  unfold Relation.convert
  unfold Fits at fits
  generalize relation.columns = columns at fits ⊢
  induction fits with
  | nil => rfl
  | cons first _ ih => rw [List.zipWith_cons_cons, first.1, ih]

theorem Fits.complete {relation : Relation} {row : Row} (fits : Fits relation.columns row) :
    relation.missing? row = none := by
  unfold Relation.missing?
  unfold Fits at fits
  generalize relation.columns = columns at fits ⊢
  induction fits with
  | nil => rfl
  | @cons column value columns values first _ ih =>
    have present : (column.required && value == .null) = false := by
      cases required : column.required with
      | false => rfl
      | true => simpa using first.2 required
    rw [List.zip_cons_cons, List.find?_cons_of_neg (by simp [present])]
    exact ih

/-- The numbers of rows have no column, and there is one key. -/
structure Table.KeyedBy (table : Table) (key : Key) : Prop where
  numbering : table.numbering = .named
  keys : table.keys = [key]

/-- Entries that hold rows, all of them fit for the table and no two alike in its key. -/
structure Stores (columns : List Column) (key : Key) (entries : List Entry) (rows : List Row) : Prop where
  sorted : Descending entries
  same : (entries.map (·.values)).Perm rows
  held : ∀ row ∈ rows, Fits columns row
  distinct : key.Distinct rows

namespace Stores
variable {columns : List Column} {key : Key} {entries : List Entry} {rows : List Row}

theorem mem_iff (stores : Stores columns key entries rows) {row : Row} :
    row ∈ rows ↔ ∃ entry ∈ entries, entry.values = row := by
  rw [← stores.same.mem_iff]
  exact List.mem_map

theorem congr (stores : Stores columns key entries rows) {others : List Row} (same : rows.Perm others) :
    Stores columns key entries others :=
  ⟨stores.sorted, stores.same.trans same, fun row member => stores.held row (same.mem_iff.mpr member),
    stores.distinct.perm same⟩

theorem place (stores : Stores columns key entries rows) {row : Row} (held : Fits columns row)
    (apart : ∀ other ∈ rows, ¬ key.Shared row other) :
    Stores columns key (Progress.place ⟨Progress.nextNumber entries, row⟩ entries) (row :: rows) where
  sorted := Progress.place_descending stores.sorted (Progress.nextNumber_fresh stores.sorted)
  same := ((Progress.place_perm _ entries).map _).trans (stores.same.cons row)
  held := by
    intro other member
    rcases List.mem_cons.mp member with rfl | member
    · exact held
    · exact stores.held other member
  distinct := List.pairwise_cons.mpr ⟨apart, stores.distinct⟩

theorem filter (stores : Stores columns key entries rows) (chosen : Row → Bool) :
    Stores columns key (entries.filter fun entry => chosen entry.values) (rows.filter chosen) where
  sorted := List.Pairwise.sublist List.filter_sublist stores.sorted
  same := by
    have same := stores.same.filter chosen
    rw [List.filter_map] at same
    exact same
  held row member := stores.held row (List.mem_filter.mp member).1
  distinct := List.Pairwise.sublist List.filter_sublist stores.distinct

end Stores

namespace Progress
variable {table : Table} {key : Key} {references : References} {row : Row} {progress : Progress}

theorem entryOf_eq (keyed : table.KeyedBy key) (number : Int) (row : Row) :
    entryOf table number row = ⟨number, table.convert row⟩ := by
  simp only [entryOf, keyed.numbering]

theorem requireNewKeys_eq (keyed : table.KeyedBy key) (checked : Key → Bool) (row : Row) (others : List Entry) :
    requireNewKeys table checked row others =
      if checked key ∧ ∃ other ∈ others, key.Shared other.values row then
        .error (.unique table.name (table.keyNames key))
      else .ok () := by
  have shared : (others.any fun entry => Relation.agrees (Relation.keyValues key row) entry.values) = true ↔
      ∃ other ∈ others, key.Shared other.values row := by
    simp only [List.any_eq_true, agrees_keyValues]
  unfold requireNewKeys
  rw [keyed.keys, List.reverse_singleton]
  by_cases looked : checked key = true
  · rw [List.filter_cons_of_pos looked, List.filter_nil, List.forM_eq_forM, List.forM_cons, List.forM_nil,
      bind_pure_unit]
    simp only [shared, looked, true_and]
  · rw [List.filter_cons_of_neg looked, if_neg fun both => looked both.1]
    rfl

/-- A row is refused where a required value is missing, whatever else is wrong with it. -/
theorem insert_incomplete (keyed : table.KeyedBy key) {column : Column}
    (missing : table.missing? (table.convert row) = some column) :
    progress.insert table references .null row = .error (.notNull table.name column.name) := by
  simp only [insert, if_true, bind, Except.bind, entryOf_eq keyed, requireValues, missing]

theorem insert_clash (keyed : table.KeyedBy key) (held : Fits table.columns row)
    (clash : ∃ other ∈ progress.entries, key.Shared row other.values) :
    progress.insert table references .null row = .error (.unique table.name (table.keyNames key)) := by
  have found : ∃ other ∈ progress.entries, key.Shared other.values row := by
    obtain ⟨other, member, shared⟩ := clash
    exact ⟨other, member, shared.symm⟩
  simp only [insert, if_true, bind, Except.bind, entryOf_eq keyed, held.convert, requireValues, held.complete,
    Option.isSome_none, Bool.false_eq_true, if_false, requireNewKeys_eq keyed, true_and, if_pos found]

theorem insert_fresh (keyed : table.KeyedBy key) (held : Fits table.columns row)
    (apart : ∀ other ∈ progress.entries, ¬ key.Shared row other.values) :
    progress.insert table references .null row =
      .ok ⟨place ⟨nextNumber progress.entries, row⟩ progress.entries, appears references row progress.violations,
        progress.changed + 1⟩ := by
  have free : ¬ ∃ other ∈ progress.entries, key.Shared other.values row := by
    rintro ⟨other, member, shared⟩
    exact apart other member shared.symm
  simp only [insert, if_true, bind, Except.bind, pure, Except.pure, entryOf_eq keyed, held.convert, requireValues,
    held.complete, Option.isSome_none, Bool.false_eq_true, if_false, requireNewKeys_eq keyed, true_and, if_neg free,
    Option.getD_none]

end Progress
end EntityStore.Engine
