import EntityStore.Proofs.Scouts.Bodies

/-! A call comes to the same on a map of entities as on the tables. The rows of each id show the entity that the map
keeps, every call keeps it so, and its outcome is that of the call on the map. -/

namespace EntityStore
open Engine ScoutWrite

variable {E : Type} {mapping : Mapping E} {kind : Kind E} {placement : Placement mapping} {Storable : E → Prop}
  {connection : Connection} {rows : Rows} {kept : Kept E}

/-- Each id shows an entity that was written, as it is kept, or neither the rows nor the map have it. -/
def Kind.Portrays (kind : Kind E) (placement : Placement mapping) (Storable : E → Prop) (rows : Rows) (kept : Kept E) :
    Prop :=
  ∀ id, ∃ written : Option E, kept.lookup id = written.map kind.settled ∧ (∀ entity ∈ written, Storable entity) ∧
    placement.Shows rows id written

/-- The outcome of a call is that of the call on the map, and so is what it leaves. Tables of other kinds are left
alone. -/
def Kind.Answers (kind : Kind E) (placement : Placement mapping) (Storable : E → Prop) (connection : Connection)
    (rows : Rows) (kept : Kept E) (call : Call E) : Prop :=
  ∃ after last others, (mapping.operation call).result Attached.store (.live connection (.ofRows [])) =
      ((kind.answer kept call).1, .live after last) ∧
    after.autocommit = true ∧ Holds after others ∧ Sound others ∧
    kind.Portrays placement Storable others (kind.answer kept call).2 ∧
    ∀ t, t ≠ placement.parent → t ∉ placement.children.map (·.2) → others t = rows t

theorem Kind.answers_refused {α : Type} {call : Call E} {body : Operation α} {left : Connection} {last : Cursor}
    {error : CrudError} (reply : α → Reply E) (idle : connection.autocommit = true)
    (holds : Holds connection rows) (sound : Sound rows) (portrays : kind.Portrays placement Storable rows kept)
    (same : mapping.operation call = do return reply (← Operation.inTransaction body))
    (failed : body.result Attached.store (.live connection.opened (.ofRows [])) = (.error error, .live left last))
    (within : Connection.Within connection.opened left) (answer : kind.answer kept call = (.error error, kept)) :
    kind.Answers placement Storable connection rows kept call := by
  obtain ⟨after, ran, closed, held⟩ := Placement.refused reply idle holds same failed within
  refine ⟨after, last, rows, by rw [ran, answer], closed, held, sound, ?_, fun _ _ _ => rfl⟩
  rw [answer]
  exact portrays

theorem Kind.answers_done {call : Call E} {reply : Reply E} {written : Option E} {next : Kept E} (sound : Sound rows)
    (portrays : kind.Portrays placement Storable rows kept) (done : placement.Done connection rows call reply)
    (allowed : AllowedAll rows (placement.writes call))
    (shows : placement.Shows (applyAll rows (placement.writes call)) (mapping.subject call) written)
    (storable : ∀ entity ∈ written, Storable entity) (answer : kind.answer kept call = (.ok reply, next))
    (here : next.lookup (mapping.subject call) = written.map kind.settled)
    (elsewhere : ∀ id, id ≠ mapping.subject call → next.lookup id = kept.lookup id) :
    kind.Answers placement Storable connection rows kept call := by
  obtain ⟨after, last, ran, closed, final⟩ := done
  refine ⟨after, last, _, ?_, closed, final, sound.stepAll (placement.proper call) allowed, fun id => ?_,
    fun t parent child => placement.applyAll_elsewhere rows call parent child⟩
  · rw [ran, answer]
  · rw [answer]
    by_cases subject : id = mapping.subject call
    · subst subject
      exact ⟨written, here, storable, shows⟩
    · obtain ⟨before, known, fine, showing⟩ := portrays id
      exact ⟨before, (elsewhere id subject).trans known, fine, showing.other subject⟩

theorem Kind.Lawful.table_eq (lawful : kind.Lawful placement Storable) : kind.table = placement.parent.name :=
  lawful.table.trans placement.table

theorem Kind.answers_create (lawful : kind.Lawful placement Storable) (idle : connection.autocommit = true)
    (holds : Holds connection rows) (sound : Sound rows) (portrays : kind.Portrays placement Storable rows kept)
    {entity : E} (storable : Storable entity) :
    kind.Answers placement Storable connection rows kept (.create entity) := by
  obtain ⟨written, known, -, shows⟩ := portrays (mapping.id entity)
  have accepted := placement.accepted entity
  have spec := holds.opened.execute_insert placement.parental (ScoutTable.fits_of_accepts accepted)
    (ScoutTable.plain_of_accepts accepted) (mapping.id entity)
  dsimp only at spec
  by_cases empty : mapping.id entity = ""
  · rw [if_pos empty] at spec
    refine Kind.answers_refused (fun _ => .done) idle holds sound portrays rfl
      (placement.insertEntity_refused spec _) ⟨_, _, _, rfl⟩ ?_
    simp only [Kind.answer, lawful.id, if_pos empty, lawful.table_eq]
  rw [if_neg empty] at spec
  cases written with
  | some old =>
    have has : ∃ row ∈ rows placement.parent, hasId (mapping.id entity) row = true := by
      have member : mapping.row old ∈ (rows placement.parent).filter (hasId (mapping.id entity)) := by
        rw [shows.parents]
        exact List.mem_cons_self
      exact ⟨_, List.mem_filter.mp member⟩
    rw [if_pos has] at spec
    refine Kind.answers_refused (fun _ => .done) idle holds sound portrays rfl
      (placement.insertEntity_refused spec _) ⟨_, _, _, rfl⟩ ?_
    have inside : mapping.id entity ∈ kept := Finmap.mem_iff.mpr ⟨_, known⟩
    simp only [Kind.answer, lawful.id, if_neg empty, if_pos inside, lawful.table_eq]
  | none =>
    obtain ⟨allowed, showing⟩ := shows.create empty holds.distinct (lawful.few storable)
    have outside : mapping.id entity ∉ kept := Finmap.lookup_eq_none.mp known
    have answer : kind.answer kept (.create entity) =
        (.ok .done, kept.insert (mapping.id entity) (kind.settled entity)) := by
      simp only [Kind.answer, lawful.id, if_neg empty, if_neg outside]
    refine Kind.answers_done sound portrays (placement.done_create idle holds allowed) allowed showing ?_ answer
      (Finmap.lookup_insert kept) fun id different => Finmap.lookup_insert_of_ne kept different
    rintro other ⟨⟩
    exact storable

theorem Kind.answers_delete (idle : connection.autocommit = true) (holds : Holds connection rows) (sound : Sound rows)
    (portrays : kind.Portrays placement Storable rows kept) (id : String) :
    kind.Answers placement Storable connection rows kept (.delete id) := by
  obtain ⟨allowed, showing⟩ := placement.shows_delete rows id
  refine Kind.answers_done sound portrays (placement.done_delete idle holds id) allowed showing ?_ rfl
    (Finmap.lookup_erase id kept) fun other different => Finmap.lookup_erase_ne different
  rintro entity ⟨⟩

theorem Kind.answers_update (lawful : kind.Lawful placement Storable) (idle : connection.autocommit = true)
    (holds : Holds connection rows) (sound : Sound rows) (portrays : kind.Portrays placement Storable rows kept)
    {entity : E} (storable : Storable entity) (mask : FieldMask) :
    kind.Answers placement Storable connection rows kept (.update entity mask) := by
  obtain ⟨written, known, fine, shows⟩ := portrays (mapping.id entity)
  rw [← lawful.id] at known
  cases written with
  | none =>
    have absent : kept.lookup (kind.id entity) = none := known
    refine Kind.answers_refused (fun _ => .done) idle holds sound portrays rfl
      (placement.updateEntity_none shows.parents holds.opened mask _) (.refl _) ?_
    simp only [Kind.answer, absent, lawful.id, lawful.table]
    rfl
  | some old =>
    obtain ⟨allowed, showing⟩ := shows.update (lawful.id_merge mask old entity) (lawful.columns_merge mask old entity)
      (lawful.elements_merge mask old entity) holds.distinct (lawful.few storable)
    have present : kept.lookup (kind.id entity) = some (kind.settled old) := known
    have answer : kind.answer kept (.update entity mask) = (.ok .done, kept.insert (mapping.id entity)
        (kind.merge mask (kind.settled old) (kind.settled entity))) := by
      simp only [Kind.answer, present, lawful.id]
    refine Kind.answers_done sound portrays (placement.done_update idle holds shows.parents allowed) allowed showing ?_
      answer ?_ fun id different => Finmap.lookup_insert_of_ne kept different
    · rintro other ⟨⟩
      exact lawful.storable_merge mask (fine old rfl) storable
    · rw [Option.map_some, lawful.settled_merge]
      exact Finmap.lookup_insert kept

theorem Kind.answers_read (lawful : kind.Lawful placement Storable) (idle : connection.autocommit = true)
    (holds : Holds connection rows) (sound : Sound rows) (portrays : kind.Portrays placement Storable rows kept)
    (id : String) : kind.Answers placement Storable connection rows kept (.read id) := by
  obtain ⟨written, known, fine, shows⟩ := portrays id
  cases written with
  | none =>
    have absent : kept.lookup id = none := known
    refine Kind.answers_refused .found idle holds sound portrays rfl
      (placement.readEntity_none shows.parents holds.opened _) (.refl _) ?_
    simp only [Kind.answer, absent, lawful.table]
    rfl
  | some entity =>
    have present : kept.lookup id = some (kind.settled entity) := known
    have answer : kind.answer kept (.read id) = (.ok (.found (kind.settled entity)), kept) := by
      simp only [Kind.answer, present]
    have done := shows.done_read (lawful.few (fine entity rfl)) idle holds (lawful.reads (fine entity rfl))
    exact Kind.answers_done sound portrays done trivial shows fine answer known fun _ _ => rfl

/-- What a call comes to on the map is what it comes to on the tables. -/
theorem Kind.answers (lawful : kind.Lawful placement Storable) (idle : connection.autocommit = true)
    (holds : Holds connection rows) (sound : Sound rows) (portrays : kind.Portrays placement Storable rows kept)
    {call : Call E} (storable : ∀ entity ∈ call.entity?, Storable entity) :
    kind.Answers placement Storable connection rows kept call := by
  cases call with
  | create entity => exact Kind.answers_create lawful idle holds sound portrays (storable entity rfl)
  | read id => exact Kind.answers_read lawful idle holds sound portrays id
  | update entity mask => exact Kind.answers_update lawful idle holds sound portrays (storable entity rfl) mask
  | delete id => exact Kind.answers_delete idle holds sound portrays id

theorem Kind.Portrays.congr (portrays : kind.Portrays placement Storable rows kept) {left : Rows}
    (same : ∀ t, t = placement.parent ∨ t ∈ placement.children.map (·.2) → (left t).Perm (rows t)) :
    kind.Portrays placement Storable left kept := by
  intro id
  obtain ⟨written, known, fine, shows⟩ := portrays id
  exact ⟨written, known, fine, shows.congr fun t inside => (same t inside).filter _⟩

theorem Kind.portrays_empty (kind : Kind E) (placement : Placement mapping) (Storable : E → Prop) :
    kind.Portrays placement Storable (fun _ => []) ∅ := by
  intro id
  refine ⟨none, Finmap.lookup_empty id, ?_, ⟨?_, rfl, fun _ _ => .refl _⟩⟩
  all_goals
    intro entity impossible
    cases impossible

theorem Kind.Answers.perform {call : Call E} (answers : kind.Answers placement Storable connection rows kept call) :
    ∃ after others, (mapping.perform Attached.store call (.ofConnection connection .live)).1 = (kind.answer kept call).1 ∧
      (mapping.perform Attached.store call (.ofConnection connection .live)).2.2.transaction.connection = after ∧
      after.autocommit = true ∧ Holds after others ∧ Sound others ∧
      kind.Portrays placement Storable others (kind.answer kept call).2 ∧
      ∀ t, t ≠ placement.parent → t ∉ placement.children.map (·.2) → others t = rows t := by
  obtain ⟨after, last, others, ran, idle, held, sound, shown, apart⟩ := answers
  obtain ⟨outcome, left⟩ := Mapping.perform_live ran
  exact ⟨after, others, outcome, by rw [left], idle, held, sound, shown, apart⟩

end EntityStore
