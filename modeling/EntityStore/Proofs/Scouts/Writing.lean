import EntityStore.Proofs.Scouts.Owning
import EntityStore.Proofs.Scouts.Rows

/-! What the statements of the mapper that write do to the rows of a migrated database, and when the engine refuses
them. -/

namespace EntityStore
open Engine

namespace Holds
variable {connection : Connection} {rows : Rows} {t : ScoutTable} {id : String}

theorem worded (t : ScoutTable) {statement : Statement} (names : statement.names ⊆ t.name :: t.columnNames)
    (arity : statement.arity ≤ variableLimit) : requireText statement.text statement.arity = .ok () :=
  requireText_ok (fun name member => t.zeroFree name (names member)) arity

theorem insertAll_eq (contents : Contents) (references : References) (added : List Row)
    (wide : ∀ row ∈ added, row.length = t.columns.length) (progress : Progress) :
    (added.foldlM (fun progress values =>
      let (number, row) := Database.layout (contents.table t) t.columnNames values
      progress.insert (contents.table t) references number row) progress) =
      added.foldlM (fun progress row => progress.insert (contents.table t) references .null row) progress := by
  have laid : ∀ row : Row, row.length = t.columns.length →
      Database.layout (contents.table t) t.columnNames row = (.null, row) := fun row length =>
    Database.layout_eq t.lists (List.length_map _) length
  induction added generalizing progress with
  | nil => rfl
  | cons row rest ih =>
    rw [List.foldlM_cons, List.foldlM_cons]
    simp only [laid row (wide row List.mem_cons_self)]
    refine congrArg _ (funext fun next => ?_)
    exact ih (fun other member => wide other (List.mem_cons_of_mem _ member)) next

theorem write_insert (contents : Contents) (references : (Nat → Bool) → References) (row : Row)
    (wide : row.length = t.columns.length) :
    Database.write (contents.table t) references 0 (.insert t.name t.columnNames) row =
      Progress.insert (contents.table t) (references fun _ => true) ⟨contents t, 0, 0⟩ .null row := by
  have inserted := insertAll_eq contents (references fun _ => true) [row] (by simpa using wide) ⟨contents t, 0, 0⟩
  rw [List.foldlM_cons, List.foldlM_cons] at inserted
  simp only [List.foldlM_nil, bind_pure] at inserted
  unfold Database.write
  simp only [List.foldlM_cons, List.foldlM_nil, bind_pure]
  exact inserted

theorem write_insertRows (contents : Contents) (references : (Nat → Bool) → References) (added : List Row) (more : Nat)
    (full : added.length = more + 1) (wide : ∀ row ∈ added, row.length = t.columns.length) :
    Database.write (contents.table t) references 0 (.insertRows t.name t.columnNames more) added.flatten =
      added.foldlM (fun progress row => progress.insert (contents.table t) (references fun _ => true) .null row)
        ⟨contents t, 0, 0⟩ := by
  have names : t.columnNames.length = t.columns.length := List.length_map _
  unfold Database.write
  dsimp only
  rw [names, ← full, Database.chunks_flatten added wide]
  exact insertAll_eq contents (references fun _ => true) added wide ⟨contents t, 0, 0⟩

section Insert
variable {values : List Value}

theorem execute_insert (holds : Holds connection rows) (parent : t ∉ ScoutTable.collections)
    (fits : Fits t.columns.tail values) (plain : ∀ value ∈ values, value.parameter = value) (id : String) :
    let step := connection.execute (.insert t.name t.columnNames) (Codec.encodeText id :: values)
    if id = "" then step = (.error (.notNull t.name "id"), { connection with changes := 0 })
    else if ∃ row ∈ rows t, hasId id row = true then
      step = (.error (.unique t.name ["id"]), { connection with changes := 0 })
    else ∃ count after, step = (.ok count, after) ∧
      Holds after (Function.update rows t ((Codec.encodeText id :: values) :: rows t)) := by
  have wide : (Codec.encodeText id :: values).length = t.columns.length := by
    rw [t.columns_eq, List.length_cons, List.length_cons, List.Forall₂.length_eq fits]
  have names : t.columnNames.length = t.columns.length := List.length_map _
  have worded : requireText (Statement.insert t.name t.columnNames).text (Statement.insert t.name t.columnNames).arity =
      .ok () := by
    refine Holds.worded t (List.Subset.refl _) ?_
    cases t <;> decide
  have bound : ∀ value ∈ Codec.encodeText id :: values, value.parameter = value :=
    List.forall_mem_cons.mpr ⟨encodeText_parameter id, plain⟩
  obtain ⟨contents, stores, ran⟩ := holds.execute_eq (t := t) worded (fun contents => ScoutTable.target_insert) bound
    (wide.trans names.symm)
  have keyed := contents.table_keyedBy t
  rw [write_insert contents _ _ wide] at ran
  dsimp only
  rw [ran]
  by_cases empty : id = ""
  · subst empty
    rw [if_pos rfl, Progress.insert_incomplete keyed (ScoutTable.missing_id contents rfl (by simp))]
    rfl
  rw [if_neg empty]
  have held := ScoutTable.fits_parent empty fits
  have shared {row : Row} : t.key.Shared (Codec.encodeText id :: values) row ↔ hasId id row = true := by
    rw [ScoutTable.key_parent parent, Key.Shared, hasId]
    simp only [List.mem_singleton, forall_eq, cell]
    rw [Value.same_comm]
  by_cases clash : ∃ row ∈ rows t, hasId id row = true
  · have found : ∃ other ∈ contents t, t.key.Shared (Codec.encodeText id :: values) other.values := by
      obtain ⟨row, member, same⟩ := clash
      obtain ⟨entry, inside, rfl⟩ := (stores t).mem_iff.mp member
      exact ⟨entry, inside, shared.mpr same⟩
    rw [if_pos clash, Progress.insert_clash keyed held found]
    have key : (contents.table t).keyNames t.key = ["id"] := by
      rw [ScoutTable.key_parent parent]
      have columns : (contents.table t).columns = Migration.key "id" :: t.columns.tail := t.columns_eq
      simp [Relation.keyNames, columns, Migration.key]
    rw [key]
    rfl
  · have apart : ∀ other ∈ contents t, ¬ t.key.Shared (Codec.encodeText id :: values) other.values :=
      fun other member same => clash ⟨_, (stores t).mem_iff.mpr ⟨other, member, rfl⟩, shared.mp same⟩
    have none : Progress.appears (contents.database.references (contents.table t) fun _ => true)
        (Codec.encodeText id :: values) 0 = 0 := by
      simp [Progress.appears, Contents.parentless parent]
    rw [if_neg clash, Progress.insert_fresh keyed held apart]
    dsimp only
    rw [none, if_neg (by decide)]
    refine ⟨_, _, rfl, holds.update stores ?_ _⟩
    exact (stores t).place held fun other member same => clash ⟨other, member, shared.mp same⟩

/-- Elements of an empty id are refused at the first of them. -/
theorem insertAll_nameless (contents : Contents) (references : References) (some : values ≠ []) (progress : Progress) :
    (elementRows (Codec.encodeText "") 0 values).foldlM (fun progress row =>
      progress.insert (contents.table t) references .null row) progress = .error (.notNull t.name "id") := by
  obtain ⟨first, others, rfl⟩ := List.exists_cons_of_ne_nil some
  have missing : (contents.table t).missing? ((contents.table t).convert [Codec.encodeText "", .integer 0, first]) =
      .some (Migration.key "id") := ScoutTable.missing_id contents rfl (by simp)
  rw [elementRows, List.foldlM_cons]
  refine (congrArg (· >>= _) (Progress.insert_incomplete (contents.table_keyedBy t) missing)).trans ?_
  rfl

/-- Elements with an id are all inserted, unless two rows come to share a place. Where they have no parent, each of them
lacks one. -/
theorem insertAll_elements {contents : Contents}
    (stores : ∀ t : ScoutTable, Stores t.columns t.key (contents t) (rows t)) (child : t ∈ ScoutTable.collections)
    (present : id ≠ "") (fits : ∀ value ∈ values, Fits (t.columns.drop 2) [value]) {added : List Row}
    (made : added = elementRows (Codec.encodeText id) 0 values) :
    match added.foldlM (fun (progress : Progress) row => progress.insert (contents.table t)
      (contents.database.references (contents.table t) fun _ => true) .null row) ⟨contents t, 0, 0⟩ with
    | .error error => error = .unique t.name ["id", "ordinality"] ∧ ¬ t.key.Distinct (added ++ rows t)
    | .ok after => t.key.Distinct (added ++ rows t) ∧ Stores t.columns t.key after.entries (added ++ rows t) ∧
        after.violations = values.length * if ∃ row ∈ rows .boyScout, hasId id row = true then (0 : Nat) else 1 := by
  subst made
  have held : ∀ row ∈ elementRows (Codec.encodeText id) 0 values, Fits t.columns row := by
    intro row member
    obtain ⟨place, value, inside, rfl⟩ := mem_elementRows member
    exact ScoutTable.fits_collection child present (fits value inside)
  have about : ∀ row ∈ elementRows (Codec.encodeText id) 0 values, cell row 0 = Codec.encodeText id := by
    intro row member
    obtain ⟨place, value, -, rfl⟩ := mem_elementRows member
    rfl
  have other : t ≠ .boyScout := by
    rintro rfl
    exact absurd child (by decide)
  let start : Progress := ⟨contents t, 0, 0⟩
  have initial : Stores t.columns t.key start.entries (rows t) := stores t
  have childless : ∀ row, (contents.database.references (contents.table t) fun _ => true).children row = 0 :=
    Contents.childless (.inl other)
  have inserted := Progress.insertAll_cases (contents.table_keyedBy t) initial childless held
  have names : (contents.table t).keyNames t.key = ["id", "ordinality"] := by
    cases t <;> first | rfl | exact absurd child (by decide)
  rw [Contents.sum_missing stores child present about, length_elementRows] at inserted
  have origin : start.violations = 0 := rfl
  rw [origin, Int.zero_add, names] at inserted
  exact_mod_cast inserted

/-- Rows of a collection are refused together: where there is no parent, where two of them share a place, or where one
has the place of a row that is there. -/
theorem execute_insertRows (holds : Holds connection rows) (child : t ∈ ScoutTable.collections) {more : Nat}
    (full : values.length = more + 1) (fits : ∀ value ∈ values, Fits (t.columns.drop 2) [value])
    (plain : ∀ value ∈ values, value.parameter = value) (id : String)
    (worded : requireText (Statement.insertRows t.name t.columnNames more).text
      (Statement.insertRows t.name t.columnNames more).arity = .ok ()) :
    let added := elementRows (Codec.encodeText id) 0 values
    match connection.execute (.insertRows t.name t.columnNames more)
      (Mapping.elementParameters (Codec.encodeText id) 0 values) with
    | (.error error, _) =>
        (error = if id = "" then .notNull t.name "id"
          else if t.key.Distinct (added ++ rows t) then .foreignKey
          else .unique t.name ["id", "ordinality"]) ∧
        ¬ (t.key.Distinct (added ++ rows t) ∧ ∃ row ∈ rows .boyScout, hasId id row = true)
    | (.ok _, after) => t.key.Distinct (added ++ rows t) ∧ (∃ row ∈ rows .boyScout, hasId id row = true) ∧
        Holds after (Function.update rows t (added ++ rows t)) := by
  intro added
  have wide : ∀ row ∈ added, row.length = t.columns.length := by
    intro row member
    obtain ⟨place, value, -, rfl⟩ := mem_elementRows member
    exact (ScoutTable.columns_length child).symm
  have total : added.length = more + 1 := (length_elementRows _ _ _).trans full
  have counted : added.flatten.length = (Statement.insertRows t.name t.columnNames more).arity := by
    rw [List.length_flatten, List.map_congr_left wide, List.map_const', List.sum_replicate_nat, total, Statement.arity,
      ScoutTable.columnNames, List.length_map]
  obtain ⟨contents, stores, ran⟩ := holds.execute_eq (t := t) worded (fun contents => ScoutTable.target_insertRows more)
    (plain_elementRows plain id 0) counted
  rw [write_insertRows contents _ added more total wide] at ran
  rw [← flatten_elementRows, ran]
  by_cases empty : id = ""
  · subst empty
    have some : values ≠ [] := List.ne_nil_of_length_eq_add_one full
    rw [insertAll_nameless contents (contents.database.references (contents.table t) fun _ => true) some
      ⟨contents t, 0, 0⟩]
    refine ⟨(if_pos rfl).symm, ?_⟩
    rintro ⟨-, parent, -, has⟩
    exact (hasId_iff.mp has).1 rfl
  have inserted := insertAll_elements stores child empty fits (rfl : added = elementRows (Codec.encodeText id) 0 values)
  generalize added.foldlM (fun (progress : Progress) row => progress.insert (contents.table t)
    (contents.database.references (contents.table t) fun _ => true) .null row) ⟨contents t, 0, 0⟩ = outcome at inserted ⊢
  cases outcome with
  | error error =>
    obtain ⟨rfl, clash⟩ := inserted
    exact ⟨by rw [if_neg empty, if_neg clash], fun both => clash both.1⟩
  | ok after =>
    obtain ⟨distinct, stored, violations⟩ := inserted
    dsimp only
    by_cases parent : ∃ row ∈ rows .boyScout, hasId id row = true
    · rw [if_pos parent] at violations
      rw [if_neg (by omega)]
      exact ⟨distinct, parent, holds.update stores stored _⟩
    · rw [if_neg parent] at violations
      rw [if_pos (by omega)]
      exact ⟨by rw [if_neg empty, if_pos distinct], fun both => parent both.2⟩

end Insert

theorem delete_violated {contents : Contents} (stores : ∀ t : ScoutTable, Stores t.columns t.key (contents t) (rows t))
    (parent : t ∉ ScoutTable.collections) (id : String) :
    0 < (Progress.delete (contents.database.references (contents.table t) fun _ => true)
        (fun entry => hasId id entry.values) ⟨contents t, 0, 0⟩).violations ↔
      t = .boyScout ∧ (∃ row ∈ rows t, hasId id row = true) ∧
        ∃ child ∈ ScoutTable.collections, ∃ row ∈ rows child, hasId id row = true := by
  rw [Progress.delete_parentless (Contents.parentless parent fun _ => true), Int.natCast_pos]
  exact Contents.sum_children_pos stores

theorem execute_delete (holds : Holds connection rows) (t : ScoutTable) (id : String) :
    let step := connection.execute (.delete t.name "id") [Codec.encodeText id]
    if t = .boyScout ∧ (∃ row ∈ rows t, hasId id row = true) ∧
      ∃ child ∈ ScoutTable.collections, ∃ row ∈ rows child, hasId id row = true then
      step = (.error .foreignKey, { connection with changes := 0 })
    else ∃ count after, step = (.ok count, after) ∧
      Holds after (Function.update rows t ((rows t).filter fun row => !hasId id row)) := by
  have worded : requireText (Statement.delete t.name "id").text (Statement.delete t.name "id").arity = .ok () := by
    refine Holds.worded t ?_ (by change 1 ≤ variableLimit; decide)
    exact List.cons_subset.mpr ⟨List.mem_cons_self, List.cons_subset.mpr
      ⟨List.mem_cons_of_mem _ t.id_mem, List.nil_subset _⟩⟩
  have bound : ∀ value ∈ [Codec.encodeText id], value.parameter = value := by simpa using encodeText_parameter id
  obtain ⟨contents, stores, ran⟩ := holds.execute_eq (t := t) worded (fun contents => ScoutTable.target_delete) bound rfl
  have chosen : (Operand.ofName (contents.table t).toRelation "id").equals (contents.table t).toRelation
      (Codec.encodeText id) = fun entry => hasId id entry.values := funext (ScoutTable.equals_id id)
  have written (references : (Nat → Bool) → References) :
      Database.write (contents.table t) references 0 (.delete t.name "id") [Codec.encodeText id] =
        .ok (Progress.delete (references fun _ => true) (fun entry => hasId id entry.values) ⟨contents t, 0, 0⟩) := by
    rw [← chosen]
    rfl
  have stored : Stores t.columns t.key ((contents t).filter fun entry => !hasId id entry.values)
      ((rows t).filter fun row => !hasId id row) := (stores t).filter fun row => !hasId id row
  dsimp only
  rw [ran, written]
  dsimp only
  by_cases child : t ∈ ScoutTable.collections
  · have other : t ≠ .boyScout := by
      rintro rfl
      exact absurd child (by decide)
    rw [Progress.delete_childless (Contents.childless (.inl other)), if_neg fun all => other all.1, if_neg (by decide)]
    exact ⟨_, _, rfl, holds.update stores stored _⟩
  have lost := delete_violated stores child id
  by_cases refused : t = .boyScout ∧ (∃ row ∈ rows t, hasId id row = true) ∧
      ∃ child ∈ ScoutTable.collections, ∃ row ∈ rows child, hasId id row = true
  · rw [if_pos refused, if_pos (lost.mpr refused)]
  · rw [if_neg refused, if_neg (mt lost.mp refused)]
    exact ⟨_, _, rfl, holds.update stores stored _⟩

section Update
variable {choices : List Choice}

theorem values_updated {entry : Entry} (fits : Fits t.columns.tail (choices.map (·.2)))
    (held : Fits t.columns entry.values) (has : hasId id entry.values = true) :
    Assignment.values (Database.assignments 1 (Choice.values choices)) entry = updated id choices entry.values := by
  rcases entry with ⟨number, row⟩
  rw [t.columns_eq] at held
  simp only [updated, if_pos has]
  cases held with
  | @cons _ idValue _ old first rest =>
    have wide : (Choice.values choices).length = old.length := by
      have full := List.Forall₂.length_eq fits
      have others := List.Forall₂.length_eq rest
      rw [List.length_map] at full
      rw [Choice.length_values]
      omega
    exact Database.values_assignments [idValue] old _ wide

theorem write_update (contents : Contents) (references : (Nat → Bool) → References)
    (full : choices.length = t.columnNames.tail.length) (id : String) :
    let assignments := Database.assignments 1 (Choice.values choices)
    Database.write (contents.table t) references 0 (.update t.name t.columnNames.tail "id")
      (Choice.parameters choices ++ [Codec.encodeText id]) =
        Progress.update (contents.table t) (references (Assignment.touches (contents.table t) assignments)) assignments
          (fun entry => hasId id entry.values) ⟨contents t, 0, 0⟩ := by
  have names : t.columnNames = "id" :: t.columnNames.tail := by
    rw [ScoutTable.columnNames, t.columns_eq]
    rfl
  have lists : (contents.table t).Lists 1 t.columnNames.tail := by
    have all := t.lists
    rw [names] at all
    exact all.cons.2
  have chosen : (Operand.ofName (contents.table t).toRelation "id").equals (contents.table t).toRelation
      (Codec.encodeText id) = fun entry => hasId id entry.values := funext (ScoutTable.equals_id id)
  have last : cell (Choice.parameters choices ++ [Codec.encodeText id]) (2 * t.columnNames.tail.length) =
      Codec.encodeText id := by
    rw [← full, ← Choice.length_parameters]
    exact cell_append _ [Codec.encodeText id] 0
  unfold Database.write
  dsimp only
  rw [last, chosen, Database.flagged_eq lists choices full]
  rfl

theorem plain_choices (plain : ∀ choice ∈ choices, choice.2.parameter = choice.2) (id : String) :
    ∀ value ∈ Choice.parameters choices ++ [Codec.encodeText id], value.parameter = value := by
  intro value member
  rcases List.mem_append.mp member with member | member
  · obtain ⟨choice, inside, found⟩ := List.mem_flatMap.mp member
    simp only [List.mem_cons, List.not_mem_nil, or_false] at found
    rcases found with rfl | rfl
    · rfl
    · exact plain _ inside
  · rw [List.mem_singleton.mp member]
    exact encodeText_parameter id

theorem update_stores {contents : Contents} (stores : ∀ t : ScoutTable, Stores t.columns t.key (contents t) (rows t))
    (parent : t ∉ ScoutTable.collections) (fits : Fits t.columns.tail (choices.map (·.2))) (id : String) :
    let assignments := Database.assignments 1 (Choice.values choices)
    ∃ after, Progress.update (contents.table t)
        (contents.database.references (contents.table t) (Assignment.touches (contents.table t) assignments)) assignments
        (fun entry => hasId id entry.values) ⟨contents t, 0, 0⟩ = .ok after ∧ after.violations = 0 ∧
      Stores t.columns t.key after.entries ((rows t).map (updated id choices)) := by
  intro assignments
  have keyed := contents.table_keyedBy t
  have untouched : Assignment.touches (contents.table t) assignments 0 = false :=
    Database.touches_assignments keyed.numbering (by decide) _
  have harmless : Progress.Harmless (contents.table t) t.key assignments := by
    refine ⟨Database.number?_assignments _ _, ?_⟩
    rw [ScoutTable.key_parent parent, List.any_cons, untouched]
    rfl
  have distinct : Key.Distinct ⟨[0], true⟩ ((contents t).map (·.values)) := by
    rw [← ScoutTable.key_parent parent]
    exact (stores t).distinct.perm (stores t).same.symm
  have one := filter_id distinct id
  rw [List.filter_map] at one
  rcases one with none | ⟨row, one⟩
  · have free : (contents t).filter (fun entry => hasId id entry.values) = [] := List.map_eq_nil_iff.mp none
    have same : (rows t).map (updated id choices) = rows t := by
      refine (List.map_congr_left fun row member => ?_).trans (List.map_id _)
      obtain ⟨entry, inside, rfl⟩ := (stores t).mem_iff.mp member
      exact if_neg (List.filter_eq_nil_iff.mp free entry inside)
    rw [Progress.update_none free, same]
    exact ⟨_, rfl, rfl, stores t⟩
  · obtain ⟨entry, alone, rfl⟩ := List.map_eq_singleton_iff.mp one
    obtain ⟨member, has⟩ := List.mem_filter.mp (alone ▸ List.mem_singleton_self entry)
    have held := (stores t).held _ ((stores t).mem_iff.mpr ⟨entry, member, rfl⟩)
    have changed := values_updated fits held has
    rw [Progress.update_one alone, Progress.updateEntry_eq keyed harmless
      (by rw [changed]; exact ScoutTable.forall₂_updated fits held) rfl (Contents.parentless parent _)
      (Contents.childless (.inr untouched)), changed]
    refine ⟨_, rfl, rfl, (stores t).replace member ?_ ?_ ?_⟩
    · intro other inside different
      refine if_neg fun also => different ?_
      have only : other ∈ [entry] := alone ▸ List.mem_filter.mpr ⟨inside, also⟩
      rw [List.mem_singleton.mp only]
    · exact fun row inside => ScoutTable.forall₂_updated fits ((stores t).held row inside)
    · intro row inside index touched
      rw [ScoutTable.key_parent parent] at touched
      rw [List.mem_singleton.mp touched]
      exact cell_updated id choices row

theorem execute_update (holds : Holds connection rows) (parent : t ∉ ScoutTable.collections)
    (fits : Fits t.columns.tail (choices.map (·.2))) (plain : ∀ choice ∈ choices, choice.2.parameter = choice.2)
    (id : String) :
    ∃ count after, connection.execute (.update t.name t.columnNames.tail "id")
        (Choice.parameters choices ++ [Codec.encodeText id]) = (.ok count, after) ∧
      Holds after (Function.update rows t ((rows t).map (updated id choices))) := by
  have full : choices.length = t.columnNames.tail.length := by
    have same := List.Forall₂.length_eq fits
    rw [List.length_map] at same
    rw [← same, ScoutTable.columnNames, List.length_tail, List.length_tail, List.length_map]
  have known : t.columnNames.tail ⊆ t.columnNames := fun name member => List.mem_of_mem_tail member
  have worded : requireText (Statement.update t.name t.columnNames.tail "id").text
      (Statement.update t.name t.columnNames.tail "id").arity = .ok () := by
    refine Holds.worded t ?_ (by cases t <;> decide)
    exact List.cons_subset.mpr ⟨List.mem_cons_self, List.cons_subset.mpr
      ⟨List.mem_cons_of_mem _ t.id_mem, List.Subset.trans known (List.subset_cons_self _ _)⟩⟩
  obtain ⟨contents, stores, ran⟩ := holds.execute_eq (t := t) worded
    (fun contents => ScoutTable.target_update known) (plain_choices plain id)
    (by rw [List.length_append, Choice.length_parameters, full]; rfl)
  obtain ⟨after, written, whole, stored⟩ := update_stores stores parent fits id
  rw [ran, write_update contents _ full id, written]
  dsimp only
  rw [whole, if_neg (by decide)]
  exact ⟨_, _, rfl, holds.update stores stored _⟩

end Update

end Holds
end EntityStore
