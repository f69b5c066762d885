import EntityStore.Error
import Mathlib.Data.List.ReduceOption

/-! What is behind a failure. A failure is a tree whose leaves are the causes that are no composites. Its message and
whether an absent row is behind it are read off the leaves from left to right, so it makes no difference in how many
stages failures are combined. -/

namespace EntityStore.CrudError

def IsLeaf : CrudError → Prop
  | .composite .. => False
  | .notFound .. | .codec _ | .statement _ => True

mutual

/-- The causes below that are no composites, from left to right. -/
def leaves : CrudError → List CrudError
  | .composite primary others => primary.leaves ++ furtherLeaves others
  | .notFound table id => [.notFound table id]
  | .codec cause => [.codec cause]
  | .statement cause => [.statement cause]

def furtherLeaves : List CrudError → List CrudError
  | [] => []
  | cause :: rest => cause.leaves ++ furtherLeaves rest

end

@[elab_as_elim]
theorem tree_induction {motive : CrudError → Prop} (leaf : ∀ error, error.IsLeaf → motive error)
    (composite : ∀ primary others, (∀ cause ∈ primary :: others, motive cause) → motive (.composite primary others))
    (error : CrudError) : motive error := by
  refine @CrudError.rec motive (fun causes => ∀ cause ∈ causes, motive cause) (fun _ _ => leaf _ trivial)
    (fun _ => leaf _ trivial) (fun _ => leaf _ trivial) ?_ (fun _ member => nomatch member) ?_ error
  · exact fun primary others first rest => composite primary others (List.forall_mem_cons.mpr ⟨first, rest⟩)
  · exact fun first rest here later => List.forall_mem_cons.mpr ⟨here, later⟩

theorem furtherLeaves_eq (causes : List CrudError) : furtherLeaves causes = causes.flatMap leaves := by
  induction causes with
  | nil => rfl
  | cons cause rest ih => rw [furtherLeaves, ih, List.flatMap_cons]

theorem leaves_composite (primary : CrudError) (others : List CrudError) :
    (composite primary others).leaves = (primary :: others).flatMap leaves := by
  rw [leaves, furtherLeaves_eq, List.flatMap_cons]

theorem leaves_of_isLeaf {error : CrudError} (leaf : error.IsLeaf) : error.leaves = [error] := by
  cases error with
  | composite primary others => exact leaf.elim
  | notFound table id => rfl
  | codec cause => rfl
  | statement cause => rfl

theorem isLeaf_of_mem_leaves {error leaf : CrudError} (member : leaf ∈ error.leaves) : leaf.IsLeaf := by
  induction error using tree_induction with
  | leaf error isLeaf =>
    rw [leaves_of_isLeaf isLeaf, List.mem_singleton] at member
    exact member ▸ isLeaf
  | composite primary others ih =>
    rw [leaves_composite] at member
    obtain ⟨cause, inside, below⟩ := List.mem_flatMap.mp member
    exact ih cause inside below

theorem leaves_ne_nil (error : CrudError) : error.leaves ≠ [] := by
  induction error using tree_induction with
  | leaf error isLeaf => rw [leaves_of_isLeaf isLeaf]; exact List.cons_ne_nil _ _
  | composite primary others ih =>
    rw [leaves_composite, List.flatMap_cons]
    exact List.append_ne_nil_of_left_ne_nil (ih primary List.mem_cons_self) _

/-! ### Messages -/

theorem message_composite (primary : CrudError) (others : List CrudError) :
    (composite primary others).message = "\n".intercalate ((primary :: others).map message) := by
  induction others generalizing primary with
  | nil => rw [message, furtherMessages, String.append_empty, List.map_singleton, String.intercalate_singleton]
  | cons next rest ih =>
    have later : next.message ++ furtherMessages rest = "\n".intercalate ((next :: rest).map message) := by
      rw [← ih next, message]
    have several : (next :: rest).map message ≠ [] := List.cons_ne_nil _ _
    rw [message, furtherMessages, List.map_cons, String.intercalate_cons_of_ne_nil several, ← later]
    simp only [String.append_assoc]

theorem intercalate_flatten (separator : String) {groups : List (List String)} (filled : ∀ group ∈ groups, group ≠ []) :
    separator.intercalate (groups.map separator.intercalate) = separator.intercalate groups.flatten := by
  induction groups with
  | nil => rfl
  | cons group rest ih =>
    obtain ⟨here, later⟩ := List.forall_mem_cons.mp filled
    cases rest with
    | nil => simp
    | cons next others =>
      have first : next ≠ [] := later next List.mem_cons_self
      have further : (next :: others).flatten ≠ [] := by
        rw [List.flatten_cons]
        exact List.append_ne_nil_of_left_ne_nil first _
      have several : (next :: others).map separator.intercalate ≠ [] := List.cons_ne_nil _ _
      rw [List.map_cons, String.intercalate_cons_of_ne_nil several, ih later,
        ← String.intercalate_append_of_ne_nil here further, ← List.flatten_cons]

theorem message_leaves (error : CrudError) : error.message = "\n".intercalate (error.leaves.map message) := by
  induction error using tree_induction with
  | leaf error isLeaf => rw [leaves_of_isLeaf isLeaf, List.map_singleton, String.intercalate_singleton]
  | composite primary others ih =>
    have lines : (primary :: others).map message =
        ((primary :: others).map fun cause => cause.leaves.map message).map "\n".intercalate := by
      rw [List.map_map]
      exact List.map_congr_left ih
    rw [message_composite, lines, intercalate_flatten, leaves_composite, List.map_flatMap, List.flatMap_def]
    intro group member
    obtain ⟨cause, -, rfl⟩ := List.mem_map.mp member
    exact mt List.map_eq_nil_iff.mp cause.leaves_ne_nil

/-! ### Absent rows -/

theorem anyNotFound_eq (causes : List CrudError) : anyNotFound causes = causes.any isNotFound := by
  induction causes with
  | nil => rfl
  | cons cause rest ih => rw [anyNotFound, ih, List.any_cons]

theorem isNotFound_leaves (error : CrudError) :
    error.isNotFound = true ↔ ∃ table id, .notFound table id ∈ error.leaves := by
  induction error using tree_induction with
  | leaf error isLeaf =>
    rw [leaves_of_isLeaf isLeaf]
    cases error with
    | composite primary others => exact isLeaf.elim
    | notFound table id => simp [isNotFound]
    | codec cause => simp [isNotFound]
    | statement cause => simp [isNotFound]
  | composite primary others ih =>
    have among : (composite primary others).isNotFound = (primary :: others).any isNotFound := by
      rw [isNotFound, anyNotFound_eq, List.any_cons]
    rw [among, List.any_eq_true, leaves_composite]
    constructor
    · rintro ⟨cause, member, absent⟩
      obtain ⟨table, id, below⟩ := (ih cause member).mp absent
      exact ⟨table, id, List.mem_flatMap.mpr ⟨cause, member, below⟩⟩
    · rintro ⟨table, id, below⟩
      obtain ⟨cause, member, below⟩ := List.mem_flatMap.mp below
      exact ⟨cause, member, (ih cause member).mpr ⟨table, id, below⟩⟩

/-! ### Combining -/

/-- The leaves of a failure where there is one. -/
def leavesOf (error : Option CrudError) : List CrudError := error.elim [] leaves

/-- Both are absent, or both have the same message and the same to say about absent rows. -/
structure Alike (first second : Option CrudError) : Prop where
  message : first.map CrudError.message = second.map CrudError.message
  isNotFound : first.map CrudError.isNotFound = second.map CrudError.isNotFound

/-- Nothing but the leaves counts, and only what is absent has none. -/
theorem alike_of_leavesOf {first second : Option CrudError} (same : leavesOf first = leavesOf second) :
    Alike first second := by
  cases first with
  | none =>
    cases second with
    | none => exact ⟨rfl, rfl⟩
    | some error => exact absurd same.symm error.leaves_ne_nil
  | some error =>
    cases second with
    | none => exact absurd same error.leaves_ne_nil
    | some other =>
      have same : error.leaves = other.leaves := same
      refine ⟨?_, ?_⟩
      · rw [Option.map_some, Option.map_some, message_leaves error, message_leaves other, same]
      · have absent : error.isNotFound = other.isNotFound := by
          rw [Bool.eq_iff_iff, isNotFound_leaves, isNotFound_leaves, same]
        rw [Option.map_some, Option.map_some, absent]

theorem combine_eq_none {errors : List (Option CrudError)} :
    combine errors = none ↔ ∀ error ∈ errors, error = none := by
  have none : combine errors = none ↔ errors.reduceOption = [] := by
    change (match errors.reduceOption with | [] => none | primary :: others => _) = none ↔ _
    cases errors.reduceOption <;> simp
  rw [none]
  exact List.filterMap_eq_nil_iff

theorem combine_eq_some {errors : List (Option CrudError)} {found : CrudError} :
    combine errors = some found ↔
      ∃ primary others, found = .composite primary others ∧ primary :: others = errors.reduceOption := by
  change (match errors.reduceOption with | [] => none | primary :: others => _) = some found ↔ _
  cases errors.reduceOption with
  | nil => simp
  | cons primary others => simp [eq_comm]

theorem flatMap_leavesOf (errors : List (Option CrudError)) :
    errors.flatMap leavesOf = errors.reduceOption.flatMap leaves := by
  induction errors with
  | nil => rfl
  | cons error rest ih =>
    rw [List.flatMap_cons, ih]
    cases error with
    | none => rfl
    | some error => rfl

theorem leavesOf_combine (errors : List (Option CrudError)) : leavesOf (combine errors) = errors.flatMap leavesOf := by
  rw [flatMap_leavesOf]
  cases found : combine errors with
  | none =>
    have nothing : errors.reduceOption = [] := List.filterMap_eq_nil_iff.mpr (combine_eq_none.mp found)
    rw [nothing]
    rfl
  | some composite =>
    obtain ⟨primary, others, rfl, present⟩ := combine_eq_some.mp found
    rw [← present]
    exact leaves_composite primary others

/-- A failure says what its leaves say, one line after the other. -/
structure SaysLeaves (error : CrudError) : Prop where
  leaf : ∀ leaf ∈ error.leaves, leaf.IsLeaf
  message : error.message = "\n".intercalate (error.leaves.map CrudError.message)
  absent : error.isNotFound = true ↔ ∃ table id, .notFound table id ∈ error.leaves

/-- What failures that may be absent are combined to. -/
structure Combines (errors : List (Option CrudError)) : Prop where
  absent : combine errors = none ↔ ∀ error ∈ errors, error = none
  present : ∀ found, combine errors = some found ↔
    ∃ primary others, found = .composite primary others ∧ primary :: others = errors.reduceOption
  leaves : ∀ found, combine errors = some found → found.leaves = errors.reduceOption.flatMap CrudError.leaves
  grouped : ∀ before group after : List (Option CrudError), errors = before ++ group ++ after →
    Alike (combine (before ++ combine group :: after)) (combine errors)
  staged : ∀ groups : List (List (Option CrudError)), errors = groups.flatten → Alike (combine (groups.map combine)) (combine errors)

theorem saysLeaves (error : CrudError) : error.SaysLeaves :=
  ⟨fun _ => isLeaf_of_mem_leaves, message_leaves error, isNotFound_leaves error⟩

theorem combines (errors : List (Option CrudError)) : Combines errors where
  absent := combine_eq_none
  present _ := combine_eq_some
  leaves found combined := by
    have read := leavesOf_combine errors
    rwa [combined, flatMap_leavesOf] at read
  grouped before group after same := by
    refine alike_of_leavesOf ?_
    rw [same, leavesOf_combine, leavesOf_combine, List.flatMap_append, List.flatMap_cons, leavesOf_combine,
      List.flatMap_append, List.flatMap_append, List.append_assoc]
  staged groups same := by
    refine alike_of_leavesOf ?_
    rw [same, leavesOf_combine, leavesOf_combine, List.flatMap_map, ← List.flatMap_id, List.flatMap_assoc]
    exact List.flatMap_congr fun group _ => leavesOf_combine group

/-- Failures lose nothing when they are combined, in whatever stages: their leaves come one after the other, and these
make up the message and tell of absent rows. -/
theorem combine_keepsLeaves :
    (∀ error : CrudError, error.SaysLeaves) ∧ ∀ errors : List (Option CrudError), Combines errors :=
  ⟨saysLeaves, combines⟩

end EntityStore.CrudError
