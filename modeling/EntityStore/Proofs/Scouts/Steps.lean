import EntityStore.Proofs.Engine.Applying
import EntityStore.Proofs.Scouts.Canonical
import EntityStore.Proofs.Scouts.Writing

/-! Writes to the tables of the scouts, with the rows that they leave and the conditions under which the engine lets
them through. -/

namespace EntityStore
open Engine

inductive ScoutWrite where
  | insert (t : ScoutTable) (id : String) (values : List Value)
  /-- The elements of a collection, of which there must be one. -/
  | fill (t : ScoutTable) (id : String) (first : Value) (others : List Value)
  | update (t : ScoutTable) (id : String) (choices : List Choice)
  | delete (t : ScoutTable) (id : String)

namespace ScoutWrite

def statement : ScoutWrite → Statement
  | .insert t _ _ => .insert t.name t.columnNames
  | .fill t _ _ others => .insertRows t.name t.columnNames others.length
  | .update t _ _ => .update t.name t.columnNames.tail "id"
  | .delete t _ => .delete t.name "id"

def parameters : ScoutWrite → List Value
  | .insert _ id values => Codec.encodeText id :: values
  | .fill _ id first others => Mapping.elementParameters (Codec.encodeText id) 0 (first :: others)
  | .update _ id choices => Choice.parameters choices ++ [Codec.encodeText id]
  | .delete _ id => [Codec.encodeText id]

/-- The kind of table is right, and so are the values. -/
def Proper : ScoutWrite → Prop
  | .insert t _ values => t ∉ ScoutTable.collections ∧ List.Forall₂ t.Accepts t.columns.tail values
  | .fill t _ first others =>
      t ∈ ScoutTable.collections ∧ ∀ value ∈ first :: others, List.Forall₂ t.Accepts (t.columns.drop 2) [value]
  | .update t _ choices =>
      t ∉ ScoutTable.collections ∧ List.Forall₂ t.Accepts t.columns.tail (choices.map (·.2))
  | .delete _ _ => True

/-- A row needs a new key, elements need their parent, and a parent stays as long as it has elements. -/
def Allowed (rows : Rows) : ScoutWrite → Prop
  | .insert t id _ => id ≠ "" ∧ ∀ row ∈ rows t, hasId id row = false
  | .fill t id first others =>
      (others.length + 1) * 3 ≤ variableLimit ∧ (∃ row ∈ rows .boyScout, hasId id row = true) ∧
        t.key.Distinct (elementRows (Codec.encodeText id) 0 (first :: others) ++ rows t)
  | .update _ _ _ => True
  | .delete t id =>
      t = .boyScout → (∃ row ∈ rows t, hasId id row = true) →
        ∀ child ∈ ScoutTable.collections, ∀ row ∈ rows child, hasId id row = false

/-- The error of a write that is not allowed. -/
def refusal (rows : Rows) : ScoutWrite → EngineError
  | .insert t id _ => if id = "" then .notNull t.name "id" else .unique t.name ["id"]
  | .fill t id first others =>
      let statement := Statement.insertRows t.name t.columnNames others.length
      match requireText statement.text statement.arity with
      | .error error => error
      | .ok () =>
          if id = "" then .notNull t.name "id"
          else if t.key.Distinct (elementRows (Codec.encodeText id) 0 (first :: others) ++ rows t) then .foreignKey
          else .unique t.name ["id", "ordinality"]
  | .update .. | .delete .. => .foreignKey

def table : ScoutWrite → ScoutTable
  | .insert t _ _ | .fill t _ _ _ | .update t _ _ | .delete t _ => t

def id : ScoutWrite → String
  | .insert _ id _ | .fill _ id _ _ | .update _ id _ | .delete _ id => id

def change (others : List Row) : ScoutWrite → List Row
  | .insert _ id values => (Codec.encodeText id :: values) :: others
  | .fill _ id first rest => elementRows (Codec.encodeText id) 0 (first :: rest) ++ others
  | .update _ id choices => others.map (updated id choices)
  | .delete _ id => others.filter fun row => !hasId id row

def apply (rows : Rows) (write : ScoutWrite) : Rows :=
  Function.update rows write.table (write.change (rows write.table))

theorem apply_table (rows : Rows) (write : ScoutWrite) :
    write.apply rows write.table = write.change (rows write.table) := Function.update_self ..

theorem apply_of_ne (rows : Rows) {write : ScoutWrite} {t : ScoutTable} (other : t ≠ write.table) :
    write.apply rows t = rows t := Function.update_of_ne other ..

end ScoutWrite

section Rows
variable {id other : String} {others : List Row}

theorem hasId_unique {row : Row} (has : hasId id row = true) : hasId other row = decide (other = id) := by
  obtain ⟨present, same⟩ := hasId_iff.mp has
  rw [Bool.eq_iff_iff, hasId_iff, same, decide_eq_true_eq]
  constructor
  · rintro ⟨-, equal⟩
    injection equal with equal
    exact equal.symm
  · rintro rfl
    exact ⟨present, rfl⟩

theorem hasId_row (present : id ≠ "") (values : List Value) : hasId id (Codec.encodeText id :: values) = true :=
  hasId_iff.mpr ⟨present, encodeText_of_ne present⟩

theorem hasId_elementRows (present : id ≠ "") {values : List Value} {start : Nat} :
    ∀ row ∈ elementRows (Codec.encodeText id) start values, hasId id row = true := by
  intro row member
  obtain ⟨place, value, -, rfl⟩ := mem_elementRows member
  exact hasId_row present _

theorem hasId_updated (choices : List Choice) (row : Row) : hasId other (updated id choices row) = hasId other row := by
  unfold hasId
  rw [cell_updated]

theorem filter_elementRows (present : id ≠ "") (values : List Value) :
    (elementRows (Codec.encodeText id) 0 values ++ others).filter (hasId id) =
      elementRows (Codec.encodeText id) 0 values ++ others.filter (hasId id) := by
  rw [List.filter_append, List.filter_eq_self.mpr (hasId_elementRows present)]

theorem filter_updated (id : String) (choices : List Choice) (others : List Row) :
    (others.map (updated id choices)).filter (hasId id) =
      (others.filter (hasId id)).map (overwrite (Choice.values choices)) := by
  rw [List.filter_map]
  have kept : (hasId id ∘ updated id choices) = hasId id := funext fun row => hasId_updated choices row
  rw [kept]
  refine List.map_congr_left fun row member => ?_
  exact if_pos (List.mem_filter.mp member).2

theorem filter_deleted (id : String) (others : List Row) :
    (others.filter fun row => !hasId id row).filter (hasId id) = [] := by
  rw [List.filter_filter, List.filter_eq_nil_iff]
  intro row _ both
  simp at both

/-- A write leaves the rows of other ids alone. -/
theorem ScoutWrite.filter_change {write : ScoutWrite} (different : other ≠ write.id) (others : List Row) :
    (write.change others).filter (hasId other) = others.filter (hasId other) := by
  have lacks {id : String} (different : other ≠ id) {row : Row} (same : cell row 0 = Codec.encodeText id) :
      ¬ hasId other row = true := by
    rw [hasId_iff, same]
    rintro ⟨present, equal⟩
    by_cases empty : id = ""
    · subst empty
      cases equal
    · rw [encodeText_of_ne empty] at equal
      injection equal with equal
      exact different equal.symm
  cases write with
  | insert t id values => exact List.filter_cons_of_neg (lacks different rfl)
  | fill t id first rest =>
    have none : (elementRows (Codec.encodeText id) 0 (first :: rest)).filter (hasId other) = [] := by
      rw [List.filter_eq_nil_iff]
      intro row member
      obtain ⟨place, value, -, rfl⟩ := mem_elementRows member
      exact lacks different rfl
    rw [change, List.filter_append, none, List.nil_append]
  | update t id choices =>
    have kept : (hasId other ∘ updated id choices) = hasId other := funext fun row => hasId_updated choices row
    rw [change, List.filter_map, kept]
    refine (List.map_congr_left fun row member => ?_).trans (List.map_id _)
    refine if_neg fun has => different ?_
    have found := (List.mem_filter.mp member).2
    rw [hasId_unique has] at found
    exact of_decide_eq_true found
  | delete t id =>
    rw [change, List.filter_filter]
    refine List.filter_congr fun row _ => ?_
    cases found : hasId other row with
    | false => rfl
    | true =>
      have distinct : ¬ id = other := Ne.symm different
      rw [hasId_unique found, decide_eq_false distinct]
      rfl

end Rows

namespace ScoutTable
variable {t : ScoutTable}

theorem fits_of_accepts {columns : List Engine.Column} {values : List Value}
    (accepted : List.Forall₂ t.Accepts columns values) : Fits columns values :=
  accepted.imp fun _ _ accepts => accepts.held

theorem plain_of_accepts {columns : List Engine.Column} {values : List Value}
    (accepted : List.Forall₂ t.Accepts columns values) : ∀ value ∈ values, value.parameter = value := by
  induction accepted with
  | nil => intro value member; cases member
  | cons first rest ih => exact List.forall_mem_cons.mpr ⟨first.plain, ih⟩

end ScoutTable

namespace Holds
variable {connection : Connection} {rows : Rows}

theorem recount (holds : Holds connection rows) (changes : Nat) : Holds { connection with changes := changes } rows :=
  ⟨holds.steady.changed _ _ _, holds.stored⟩

/-- A write goes through where it is allowed and leaves its rows. Elsewhere it is refused and leaves the rows as they
are. -/
def Settles (connection : Connection) (rows : Rows) (write : ScoutWrite) : Prop :=
  (∃ count after, connection.execute write.statement write.parameters = (.ok count, after) ∧
    write.Allowed rows ∧ Holds after (write.apply rows)) ∨
  ∃ after, connection.execute write.statement write.parameters = (.error (write.refusal rows), after) ∧
    ¬ write.Allowed rows ∧ Holds after rows

variable {t : ScoutTable} {id : String}

theorem settles_insert (holds : Holds connection rows) {values : List Value}
    (proper : (ScoutWrite.insert t id values).Proper) : Settles connection rows (.insert t id values) := by
  obtain ⟨parent, accepted⟩ := proper
  have spec := holds.execute_insert parent (ScoutTable.fits_of_accepts accepted)
    (ScoutTable.plain_of_accepts accepted) id
  dsimp only at spec
  by_cases empty : id = ""
  · rw [if_pos empty] at spec
    refine .inr ⟨_, spec.trans ?_, fun allowed => allowed.1 empty, holds.recount 0⟩
    rw [ScoutWrite.refusal, if_pos empty]
  rw [if_neg empty] at spec
  by_cases clash : ∃ row ∈ rows t, hasId id row = true
  · rw [if_pos clash] at spec
    refine .inr ⟨_, spec.trans (by rw [ScoutWrite.refusal, if_neg empty]), fun allowed => ?_, holds.recount 0⟩
    obtain ⟨row, member, has⟩ := clash
    rw [allowed.2 row member] at has
    cases has
  · rw [if_neg clash] at spec
    obtain ⟨count, after, ran, held⟩ := spec
    refine .inl ⟨count, after, ran, ⟨empty, fun row member => ?_⟩, held⟩
    exact Bool.eq_false_iff.mpr fun has => clash ⟨row, member, has⟩

/-- The text of a fill is right where its parameters are few enough. -/
theorem worded_fill (child : t ∈ ScoutTable.collections) (more : Nat) :
    requireText (Statement.insertRows t.name t.columnNames more).text
        (Statement.insertRows t.name t.columnNames more).arity = .ok () ↔ (more + 1) * 3 ≤ variableLimit := by
  have arity : (Statement.insertRows t.name t.columnNames more).arity = (more + 1) * 3 := by
    rw [Statement.arity, ScoutTable.columnNames, List.length_map, ScoutTable.columns_length child]
  rw [← arity]
  exact ⟨arity_insertRows t.zeroFree, Holds.worded t (List.Subset.refl _)⟩

theorem settles_fill (holds : Holds connection rows) {first : Value} {others : List Value}
    (proper : (ScoutWrite.fill t id first others).Proper) : Settles connection rows (.fill t id first others) := by
  obtain ⟨child, accepted⟩ := proper
  have full : (first :: others).length = others.length + 1 := rfl
  have spec := holds.execute_insertRows child full
    (fun value member => ScoutTable.fits_of_accepts (accepted value member))
    (fun value member => ScoutTable.plain_of_accepts (accepted value member) value (List.mem_singleton_self value)) id
  cases worded : requireText (Statement.insertRows t.name t.columnNames others.length).text
    (Statement.insertRows t.name t.columnNames others.length).arity with
  | error error =>
    have ran := Connection.execute_unworded connection
      (Mapping.elementParameters (Codec.encodeText id) 0 (first :: others)) worded
    refine .inr ⟨connection, ran.trans ?_, fun allowed => ?_, holds⟩
    · simp only [ScoutWrite.refusal, worded]
    · rw [(worded_fill child _).mpr allowed.1] at worded
      cases worded
  | ok _ =>
    have spec := spec worded
    rcases ran : connection.execute (.insertRows t.name t.columnNames others.length)
      (Mapping.elementParameters (Codec.encodeText id) 0 (first :: others)) with ⟨error | count, after⟩
    · obtain ⟨changes, rfl⟩ := Connection.Failed.changes holds.steady.statementEnd (Connection.execute_cases ran)
      simp only [ran] at spec
      refine .inr ⟨_, ran.trans ?_, fun allowed => spec.2 ⟨allowed.2.2, allowed.2.1⟩, holds.recount changes⟩
      simp only [ScoutWrite.refusal, worded, spec.1]
    · simp only [ran] at spec
      exact .inl ⟨count, after, ran, ⟨(worded_fill child _).mp worded, spec.2.1, spec.1⟩, spec.2.2⟩

theorem settles_update (holds : Holds connection rows) {choices : List Choice}
    (proper : (ScoutWrite.update t id choices).Proper) : Settles connection rows (.update t id choices) := by
  obtain ⟨parent, accepted⟩ := proper
  have plain : ∀ choice ∈ choices, choice.2.parameter = choice.2 := fun choice member =>
    ScoutTable.plain_of_accepts accepted choice.2 (List.mem_map_of_mem member)
  obtain ⟨count, after, ran, held⟩ := holds.execute_update parent (ScoutTable.fits_of_accepts accepted) plain id
  exact .inl ⟨count, after, ran, trivial, held⟩

theorem settles_delete (holds : Holds connection rows) (t : ScoutTable) (id : String) :
    Settles connection rows (.delete t id) := by
  have spec := holds.execute_delete t id
  dsimp only at spec
  by_cases refused : t = .boyScout ∧ (∃ row ∈ rows t, hasId id row = true) ∧
    ∃ child ∈ ScoutTable.collections, ∃ row ∈ rows child, hasId id row = true
  · rw [if_pos refused] at spec
    refine .inr ⟨_, spec, fun allowed => ?_, holds.recount 0⟩
    obtain ⟨boy, some, child, inside, row, member, has⟩ := refused
    rw [allowed boy some child inside row member] at has
    cases has
  · rw [if_neg refused] at spec
    obtain ⟨count, after, ran, held⟩ := spec
    refine .inl ⟨count, after, ran, fun boy some child inside row member => ?_, held⟩
    exact Bool.eq_false_iff.mpr fun has => refused ⟨boy, some, child, inside, row, member, has⟩

theorem write (holds : Holds connection rows) {write : ScoutWrite} (proper : write.Proper) :
    Settles connection rows write := by
  cases write with
  | insert t id values => exact holds.settles_insert proper
  | fill t id first others => exact holds.settles_fill proper
  | update t id choices => exact holds.settles_update proper
  | delete t id => exact holds.settles_delete t id

end Holds
end EntityStore
