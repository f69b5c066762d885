import EntityStore.Engine.Connection
import EntityStore.Proofs.Engine.Keys

/-! Where statements put their values. When the names of a statement are those of consecutive columns, its values go to
these columns in the same order, and nothing else is assigned. -/

namespace EntityStore.Engine

theorem cell_eq (row : Row) (index : Nat) : cell row index = (row[index]?).getD .null := by
  induction row generalizing index with
  | nil => simp [cell]
  | cons value rest ih => cases index <;> simp [cell, ih]

theorem cell_append (front rest : Row) (index : Nat) :
    cell (front ++ rest) (front.length + index) = cell rest index := by
  rw [cell_eq, cell_eq, List.getElem?_append_right (Nat.le_add_right _ _), Nat.add_sub_cancel_left]

theorem map_cell (row : Row) : (List.range' 0 row.length).map (cell row) = row := by
  refine List.ext_getElem (by simp) fun index left right => ?_
  simp [cell_eq, List.getElem?_eq_getElem right]

namespace Relation

/-- The names are those of the columns from one on. -/
def Lists (relation : Relation) (start : Nat) (names : List String) : Prop :=
  names.map relation.place? = (List.range' start names.length).map fun index => some (.column index)

theorem Lists.cons {relation : Relation} {start : Nat} {name : String} {names : List String}
    (lists : relation.Lists start (name :: names)) :
    relation.place? name = some (.column start) ∧ relation.Lists (start + 1) names := by
  unfold Lists at lists
  rw [List.map_cons, List.length_cons, List.range'_succ, List.map_cons] at lists
  exact List.cons.inj lists

theorem Lists.places {relation : Relation} {start : Nat} {names : List String} (lists : relation.Lists start names) :
    ∀ name ∈ names, ∃ index, start ≤ index ∧ relation.place? name = some (.column index) := by
  intro name member
  have inside : relation.place? name ∈ names.map relation.place? := List.mem_map_of_mem member
  rw [show names.map relation.place? = _ from lists] at inside
  obtain ⟨index, ranged, same⟩ := List.mem_map.mp inside
  exact ⟨index, (List.mem_range'_1.mp ranged).1, same.symm⟩

theorem Lists.operands {relation : Relation} {start : Nat} {names : List String} (lists : relation.Lists start names) :
    names.map (Operand.ofName relation) =
      (List.range' start names.length).map fun index => .stored (.column index) := by
  induction names generalizing start with
  | nil => rfl
  | cons name rest ih =>
    obtain ⟨here, later⟩ := lists.cons
    rw [List.map_cons, List.length_cons, List.range'_succ, List.map_cons, ih later]
    simp only [Operand.ofName, here]

end Relation

/-- Whether to change a column, and the value to change it to. -/
abbrev Choice := Bool × Value

namespace Choice

def parameters (choices : List Choice) : List Value := choices.flatMap fun choice => [.ofBool choice.1, choice.2]

def values (choices : List Choice) : List (Option Value) :=
  choices.map fun choice => if choice.1 then some choice.2 else none

theorem length_parameters (choices : List Choice) : (parameters choices).length = 2 * choices.length := by
  induction choices with
  | nil => rfl
  | cons choice rest ih =>
    rw [parameters, List.flatMap_cons, List.length_append, ← parameters, ih, List.length_cons]
    simp only [List.length_cons, List.length_nil]
    omega

theorem length_values (choices : List Choice) : (values choices).length = choices.length := List.length_map _

end Choice

namespace Database
variable {table : Table} {names : List String}

private theorem number_none (places : List (Option Place)) (values : List Value)
    (columns : ∀ place ∈ places, place ≠ some .number) (number : Value) :
    (places.zip values).foldl (fun number (place, value) => if place = some .number then value else number) number =
      number := by
  induction places generalizing values with
  | nil => rfl
  | cons place rest ih =>
    cases values with
    | nil => rfl
    | cons value values =>
      rw [List.zip_cons_cons, List.foldl_cons]
      simp only [if_neg (columns place List.mem_cons_self)]
      exact ih values fun other member => columns other (List.mem_cons_of_mem _ member)

private theorem findIdx?_range (count index : Nat) (inside : index < count) :
    ((List.range' 0 count).map fun place => some (Place.column place)).findIdx? (· == some (.column index)) =
      some index := by
  rw [List.findIdx?_eq_some_iff_getElem]
  refine ⟨by simpa using inside, by simp, fun before smaller => ?_⟩
  simp
  omega

theorem layout_eq (lists : table.Lists 0 names) (full : names.length = table.columns.length) {values : List Value}
    (wide : values.length = table.columns.length) : layout table names values = (.null, values) := by
  unfold layout
  dsimp only
  rw [show names.map table.place? = _ from lists]
  refine Prod.ext (number_none _ _ ?_ _) ?_
  · intro place member
    obtain ⟨index, -, rfl⟩ := List.mem_map.mp member
    simp
  · refine List.ext_getElem (by simp [wide]) fun index left right => ?_
    have inside : index < names.length := by
      have short : index < values.length := right
      omega
    rw [List.getElem_mapIdx, findIdx?_range names.length index inside]
    simp only [cell_eq, List.getElem?_eq_getElem right, Option.getD_some]

def assignments : Nat → List (Option Value) → List Assignment
  | _, [] => []
  | start, value :: rest => ⟨.column start, value⟩ :: assignments (start + 1) rest

theorem assignments_place {start : Nat} {values : List (Option Value)} :
    ∀ assignment ∈ assignments start values, ∃ index, start ≤ index ∧ assignment.place = .column index := by
  induction values generalizing start with
  | nil => intro assignment member; cases member
  | cons value rest ih =>
    intro assignment member
    rcases List.mem_cons.mp member with rfl | member
    · exact ⟨start, Nat.le_refl _, rfl⟩
    · obtain ⟨index, later, same⟩ := ih assignment member
      exact ⟨index, by omega, same⟩

theorem flagged_eq {start : Nat} (lists : table.Lists start names) (choices : List Choice)
    (full : choices.length = names.length) (others : List Value) :
    flagged table names (Choice.parameters choices ++ others) = assignments start (Choice.values choices) := by
  induction names generalizing start choices with
  | nil =>
    obtain rfl := List.length_eq_zero_iff.mp full
    rfl
  | cons name names ih =>
    cases choices with
    | nil => cases full
    | cons choice choices =>
      obtain ⟨here, later⟩ := lists.cons
      have rest := ih later choices (Nat.succ.inj full)
      rcases choice with ⟨flag, value⟩
      change flagged table (name :: names) (.ofBool flag :: value :: (Choice.parameters choices ++ others)) =
        ⟨.column start, if flag then some value else none⟩ :: assignments (start + 1) (Choice.values choices)
      simp only [flagged, here, rest]
      cases flag <;> rfl

theorem number?_assignments (start : Nat) (values : List (Option Value)) :
    Assignment.number? (assignments start values) = none := by
  unfold Assignment.number?
  induction values generalizing start with
  | nil => rfl
  | cons value rest ih => exact ih (start + 1)

/-- Columns before the first one assigned are not touched. -/
theorem touches_assignments (numbering : table.numbering = .named) {start index : Nat} (before : index < start)
    (values : List (Option Value)) : Assignment.touches table (assignments start values) index = false := by
  unfold Assignment.touches
  rw [List.any_eq_false]
  intro assignment member
  obtain ⟨column, later, same⟩ := assignments_place assignment member
  simp [same, Relation.placeOf, numbering]
  omega

/-- The columns before the first one assigned are passed over, whatever they have become. -/
theorem foldl_assignments {front done old : Row} {values : List (Option Value)} (wide : values.length = old.length)
    (same : done.length = front.length) :
    (assignments front.length values).foldl (fun row assignment =>
      match assignment.place with
      | .column index => row.set index (assignment.value.getD (cell (front ++ old) index))
      | .number => row) (done ++ old) = done ++ values.zipWith Option.getD old := by
  induction values generalizing front done old with
  | nil =>
    obtain rfl := List.length_eq_zero_iff.mp wide.symm
    rfl
  | cons value values ih =>
    cases old with
    | nil => cases wide
    | cons first old =>
      have found : cell (front ++ first :: old) front.length = first := cell_append front (first :: old) 0
      have set : (done ++ first :: old).set front.length (value.getD first) = (done ++ [value.getD first]) ++ old := by
        rw [← same, List.set_append_right _ _ (Nat.le_refl _)]
        simp
      have longer : (done ++ [value.getD first]).length = (front ++ [first]).length := by simp [same]
      have later := ih (Nat.succ.inj wide) longer
      simp only [List.length_append, List.length_cons, List.length_nil, Nat.zero_add, List.append_assoc,
        List.cons_append, List.nil_append] at later
      simp only [assignments, List.foldl_cons, found, set, List.zipWith_cons_cons, List.append_assoc, List.cons_append,
        List.nil_append]
      exact later

theorem values_assignments {number : Int} (front old : Row) (values : List (Option Value))
    (wide : values.length = old.length) :
    Assignment.values (assignments front.length values) ⟨number, front ++ old⟩ = front ++ values.zipWith Option.getD old :=
  foldl_assignments wide rfl

theorem chunks_flatten {width : Nat} (rows : List (List Value)) (wide : ∀ row ∈ rows, row.length = width) :
    chunks width rows.length rows.flatten = rows := by
  induction rows with
  | nil => rfl
  | cons row rest ih =>
    have here := wide row List.mem_cons_self
    rw [List.length_cons, List.flatten_cons, chunks, List.take_left' here, List.drop_left' here,
      ih fun other member => wide other (List.mem_cons_of_mem _ member)]

end Database
end EntityStore.Engine
