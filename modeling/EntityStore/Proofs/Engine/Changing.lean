import EntityStore.Proofs.Engine.Storing
import Mathlib.Algebra.GroupWithZero.Nat
import Mathlib.Algebra.Ring.Int.Defs

/-! What whole statements do to the rows of a table: rows that are added one after the other, rows that go, and one row
that changes. With each goes what it does to the count of missing parents. -/

namespace EntityStore.Engine
namespace Progress

variable {table : Table} {key : Key} {references : References} {rows : List Row} {progress : Progress}

theorem appears_childless {row : Row} (childless : references.children row = 0) (violations : Int) :
    appears references row violations = violations + references.missing row := by
  unfold appears
  rw [childless]
  dsimp only
  split <;> omega

/-- Rows added one after the other are all added, unless one of them shares its key with another or with a row that
was there. -/
theorem insertAll_cases (keyed : table.KeyedBy key) (stores : Stores table.columns key progress.entries rows)
    (childless : ∀ row, references.children row = 0) {added : List Row} (held : ∀ row ∈ added, Fits table.columns row) :
    match added.foldlM (fun progress row => progress.insert table references .null row) progress with
    | .error error => error = .unique table.name (table.keyNames key) ∧ ¬ key.Distinct (added ++ rows)
    | .ok after => key.Distinct (added ++ rows) ∧ Stores table.columns key after.entries (added ++ rows) ∧
        after.violations = progress.violations + (added.map references.missing).sum := by
  induction added generalizing progress rows with
  | nil => exact ⟨stores.distinct, stores, by simp⟩
  | cons row rest ih =>
    have first := held row List.mem_cons_self
    rw [List.foldlM_cons]
    by_cases clash : ∃ other ∈ progress.entries, key.Shared row other.values
    · rw [insert_clash keyed first clash]
      refine ⟨rfl, fun distinct => ?_⟩
      obtain ⟨other, member, shared⟩ := clash
      have known := stores.mem_iff.mpr ⟨other, member, rfl⟩
      exact (List.pairwise_cons.mp distinct).1 _ (List.mem_append_right _ known) shared
    · have apart : ∀ other ∈ rows, ¬ key.Shared row other := by
        intro other member shared
        obtain ⟨entry, inside, rfl⟩ := stores.mem_iff.mp member
        exact clash ⟨entry, inside, shared⟩
      rw [insert_fresh keyed first fun other member shared => clash ⟨other, member, shared⟩]
      let next : Progress := ⟨place ⟨nextNumber progress.entries, row⟩ progress.entries,
        appears references row progress.violations, progress.changed + 1⟩
      have stored : Stores table.columns key next.entries (row :: rows) := stores.place first apart
      have later := ih stored fun other member => held other (List.mem_cons_of_mem _ member)
      have turned : (rest ++ row :: rows).Perm (row :: rest ++ rows) := List.perm_middle
      change match rest.foldlM (fun progress row => progress.insert table references .null row) next with
        | .error error => error = .unique table.name (table.keyNames key) ∧ ¬ key.Distinct (row :: rest ++ rows)
        | .ok after => key.Distinct (row :: rest ++ rows) ∧ Stores table.columns key after.entries (row :: rest ++ rows) ∧
            after.violations = progress.violations + ((row :: rest).map references.missing).sum
      generalize rest.foldlM (fun progress row => progress.insert table references .null row) next = ended at later ⊢
      cases ended
      · exact ⟨later.1, fun distinct => later.2 (distinct.perm turned.symm)⟩
      · obtain ⟨distinct, stored, counted⟩ := later
        have here : next.violations = progress.violations + references.missing row :=
          appears_childless (childless row) _
        refine ⟨distinct.perm turned, stored.congr turned, ?_⟩
        rw [counted, here, List.map_cons, List.sum_cons]
        omega

theorem delete_childless (childless : ∀ row, references.children row = 0) (chosen : Entry → Bool)
    (entries : List Entry) (changed : Nat) :
    (delete references chosen ⟨entries, 0, changed⟩).violations = 0 := by
  unfold delete
  dsimp only
  generalize entries.reverse.filter chosen = gone
  induction gone with
  | nil => rfl
  | cons entry rest ih =>
    rw [List.foldl_cons]
    simpa [disappears, childless] using ih

theorem delete_parentless (parentless : ∀ row, references.missing row = 0) (chosen : Entry → Bool)
    (entries : List Entry) (changed : Nat) :
    (delete references chosen ⟨entries, 0, changed⟩).violations =
      ((entries.reverse.filter chosen).map fun entry => references.children entry.values).sum := by
  unfold delete
  dsimp only
  generalize entries.reverse.filter chosen = gone
  suffices step : ∀ violations : Int,
      gone.foldl (fun violations entry => disappears references entry.values violations) violations =
        violations + (gone.map fun entry => references.children entry.values).sum by
    rw [step 0, Int.zero_add]
  induction gone with
  | nil => simp
  | cons entry rest ih =>
    intro violations
    rw [List.foldl_cons, ih, List.map_cons, List.sum_cons]
    simp only [disappears, parentless]
    split <;> omega

theorem update_none {assignments : List Assignment} {chosen : Entry → Bool}
    (none : progress.entries.filter chosen = []) :
    progress.update table references assignments chosen = .ok progress := by
  unfold update
  rw [List.filter_reverse, none]
  rfl

theorem update_one {assignments : List Assignment} {chosen : Entry → Bool} {entry : Entry}
    (one : progress.entries.filter chosen = [entry]) :
    progress.update table references assignments chosen = updateEntry table references assignments progress entry := by
  unfold update
  rw [List.filter_reverse, one, List.reverse_singleton, List.foldlM_cons]
  simp only [List.foldlM_nil, bind_pure]

/-- Assignments to columns outside the key, so that neither the key of a row nor its number changes. -/
structure Harmless (table : Table) (key : Key) (assignments : List Assignment) : Prop where
  unnumbered : Assignment.number? assignments = none
  untouched : key.columns.any (Assignment.touches table assignments) = false

theorem updateEntry_eq (keyed : table.KeyedBy key) {assignments : List Assignment}
    (harmless : Harmless table key assignments) {entry : Entry}
    (held : Fits table.columns (Assignment.values assignments entry)) (whole : progress.violations = 0)
    (parentless : ∀ row, references.missing row = 0) (childless : ∀ row, references.children row = 0) :
    updateEntry table references assignments progress entry =
      .ok ⟨place ⟨entry.number, Assignment.values assignments entry⟩
        (progress.entries.filter (·.number != entry.number)), 0, progress.changed + 1⟩ := by
  have alone : (progress.entries.filter (·.number != entry.number)).any (·.number == entry.number) = false := by
    simp
  have quiet : appears references (Assignment.values assignments entry) (disappears references entry.values 0) = 0 := by
    simp [appears, disappears, parentless, childless]
  simp only [updateEntry, harmless.unnumbered, bind, Except.bind, pure, Except.pure, entryOf_eq keyed, held.convert,
    requireValues, held.complete, requireNewNumber, alone, Bool.false_eq_true, if_false, requireNewKeys_eq keyed,
    harmless.untouched, false_and, whole, quiet]

end Progress

theorem Descending.split {entries : List Entry} (sorted : Descending entries) {entry : Entry} (member : entry ∈ entries) :
    entries.Perm (entry :: entries.filter (·.number != entry.number)) := by
  induction entries with
  | nil => cases member
  | cons first rest ih =>
    obtain ⟨below, sorted⟩ := List.pairwise_cons.mp sorted
    rcases List.mem_cons.mp member with rfl | member
    · have kept : rest.filter (·.number != entry.number) = rest := by
        apply List.filter_eq_self.mpr
        intro other inside
        have under := below other inside
        simp only [bne_iff_ne]
        omega
      rw [List.filter_cons_of_neg (by simp), kept]
    · have under := below entry member
      rw [List.filter_cons_of_pos (by simp only [bne_iff_ne]; omega)]
      exact ((ih sorted member).cons first).trans (.swap entry first _)

namespace Stores
variable {columns : List Column} {key : Key} {entries : List Entry} {rows : List Row}

theorem replace (stores : Stores columns key entries rows) {entry : Entry} (member : entry ∈ entries)
    {change : Row → Row} (others : ∀ other ∈ entries, other.number ≠ entry.number → change other.values = other.values)
    (held : ∀ row ∈ rows, Fits columns (change row))
    (keeps : ∀ row ∈ rows, ∀ index ∈ key.columns, cell (change row) index = cell row index) :
    Stores columns key
      (Progress.place ⟨entry.number, change entry.values⟩ (entries.filter (·.number != entry.number)))
      (rows.map change) where
  sorted := by
    refine Progress.place_descending (List.Pairwise.sublist List.filter_sublist stores.sorted) ?_
    intro other inside
    simpa using (List.mem_filter.mp inside).2
  same := by
    refine ((Progress.place_perm _ _).map _).trans (.trans ?_ (stores.same.map change))
    rw [List.map_map]
    refine .trans ?_ ((stores.sorted.split member).map _).symm
    rw [List.map_cons, List.map_cons]
    refine .of_eq (congrArg (List.cons _) (List.map_congr_left fun other inside => ?_))
    obtain ⟨inside, different⟩ := List.mem_filter.mp inside
    exact (others other inside (by simpa using different)).symm
  held row inside := by
    obtain ⟨old, known, rfl⟩ := List.mem_map.mp inside
    exact held old known
  distinct := by
    refine List.pairwise_map.mpr (stores.distinct.imp_of_mem fun {a b} here there apart shared => apart ?_)
    intro index inside
    rw [← keeps a here index inside, ← keeps b there index inside]
    exact shared index inside

end Stores
end EntityStore.Engine
