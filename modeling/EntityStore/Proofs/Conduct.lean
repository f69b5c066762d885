import EntityStore.Proofs.Observation

/-! The bodies of the four operations follow the observer. Every request of a body is a step, a body that fails has
just made the exchange that is the failure, and a read that succeeds returns the entity that its exchanges tell of. -/

namespace EntityStore.Mapping
variable {E : Type} {mapping : Mapping E}

theorem follows_execute (stage : Stage E) (statement : Statement) (parameters : List Value) :
    mapping.Follows (fun _ after => after = stage) (Operation.execute statement parameters).run stage := by
  refine ⟨rfl, fun response => ?_⟩
  cases response with
  | error error => rfl
  | ok _ => cases stage <;> rfl

theorem follows_query (stage : Stage E) (statement : Statement) (parameters : List Value) :
    mapping.Follows (fun _ after => after = stage) (Operation.query statement parameters).run stage := by
  refine ⟨rfl, fun response => ?_⟩
  cases response with
  | error error => rfl
  | ok _ => cases stage <;> rfl

/-- A row that is scanned is decoded at once, and what cannot be decoded is the failure that the scan is. -/
theorem follows_scan {stage : Stage E} (decode : Row → Except CodecError α) (next : α → Operation β)
    {good : β → Stage E → Prop}
    (told : ∀ row, match decode row with
      | .ok value => ∃ after, mapping.observe stage ⟨.scan, .ok row⟩ = .ok after ∧
          mapping.Follows good (next value).run after
      | .error error => mapping.observe stage ⟨.scan, .ok row⟩ = .error (.codec error)) :
    mapping.Follows good (do let row ← Operation.scan; let value ← Operation.ofCodec (decode row); next value).run
      stage := by
  refine ⟨rfl, fun response => ?_⟩
  rcases response with error | row
  · rfl
  have answer := told row
  cases decoded : decode row with
  | error error =>
    simp only [decoded] at answer
    simp only [answer]
    change (Operation.ofCodec (decode row) >>= next).run = .done (.error (.codec error))
    rw [decoded]
    rfl
  | ok value =>
    simp only [decoded] at answer
    obtain ⟨after, seen, follows⟩ := answer
    simp only [seen]
    change mapping.Follows good (Operation.ofCodec (decode row) >>= next).run after
    rw [decoded]
    exact follows

theorem follows_insertCollection (collection : Collection) (id : Value) (values : List Value) :
    mapping.Follows (fun _ after => after = .writing) (insertCollection collection id values).run .writing := by
  cases values with
  | nil => rfl
  | cons first others => exact follows_execute _ _ _

theorem follows_insertCollections (entity : E) (id : Value) (index : Nat) (collections : List Collection) :
    mapping.Follows (fun _ after => after = .writing)
      (mapping.insertCollections entity id index collections).run .writing := by
  induction collections generalizing index with
  | nil => rfl
  | cons collection rest ih =>
    refine (follows_insertCollection _ _ _).bind fun _ after same => ?_
    subst after
    exact ih (index + 1)

theorem follows_insertEntity (entity : E) :
    mapping.Follows (fun _ after => after = .writing) (mapping.insertEntity entity).run .writing := by
  refine (follows_execute _ _ _).bind fun _ after same => ?_
  subst after
  exact follows_insertCollections entity _ 0 _

theorem follows_deleteCollections (id : Value) (collections : List Collection) :
    mapping.Follows (fun _ after => after = .writing) (deleteCollections id collections).run .writing := by
  induction collections with
  | nil => rfl
  | cons collection rest ih =>
    refine (follows_execute _ _ _).bind fun _ after same => ?_
    subst after
    exact ih

theorem follows_deleteEntity (id : String) :
    mapping.Follows (fun _ after => after = .writing) (mapping.deleteEntity id).run .writing := by
  refine (follows_deleteCollections _ _).bind fun _ after same => ?_
  subst after
  exact follows_execute _ _ _

theorem follows_replaceCollections (entity : E) (mask : FieldMask) (id : Value) (index : Nat)
    (collections : List Collection) :
    mapping.Follows (fun _ after => after = .writing)
      (mapping.replaceCollections entity mask id index collections).run .writing := by
  induction collections generalizing index with
  | nil => rfl
  | cons collection rest ih =>
    unfold replaceCollections
    split
    · refine (follows_execute _ _ _).bind fun _ after same => ?_
      subst after
      refine (follows_insertCollection _ _ _).bind fun _ after same => ?_
      subst after
      exact ih (index + 1)
    · exact ih (index + 1)

theorem follows_updateColumns (entity : E) (mask : FieldMask) (id : Value) :
    mapping.Follows (fun _ after => after = .writing) (mapping.updateColumns entity mask id).run .writing := by
  unfold updateColumns
  split
  · rfl
  · exact follows_execute _ _ _

theorem follows_updateEntity (entity : E) (mask : FieldMask) :
    mapping.Follows (fun _ after => after = .writing) (mapping.updateEntity entity mask).run
      (.seeking (mapping.id entity) false) := by
  refine (follows_query _ _ _).bind fun limit after same => ?_
  subst after
  refine ⟨rfl, fun response => ?_⟩
  rcases response with error | _ | rest
  · rfl
  · rfl
  refine ⟨rfl, fun _ => ?_⟩
  refine (follows_updateColumns entity mask _).bind fun _ after same => ?_
  subst after
  exact follows_replaceCollections entity mask _ 0 _

theorem follows_collect (entity : E) (index limit : Nat) (read : List Value) :
    mapping.Follows (fun values after => after = .collecting entity index values)
      (Operation.collect limit read).run (.collecting entity index read.reverse) := by
  induction limit using Nat.strongRecOn generalizing read with
  | ind limit ih =>
    rw [Operation.collect]
    refine ⟨rfl, fun response => ?_⟩
    rcases response with error | _ | rest
    · rfl
    · rfl
    refine follows_scan (fun row => Codec.column row 0) _ fun row => ?_
    cases decoded : Codec.column row 0 with
    | error error => simp only [observe, Exchange.failure?, decoded]
    | ok value =>
      refine ⟨.collecting entity index (read.reverse ++ [value]), ?_, ?_⟩
      · simp only [observe, Exchange.failure?, decoded]
      rw [← List.reverse_cons]
      exact ih rest rest.isLt (value :: read)

theorem follows_readCollections (id : Value) (entity : E) (index : Nat) (collections : List Collection) :
    mapping.Follows (fun result after => ∃ count, after = .collecting result count [])
      (mapping.readCollections id entity index collections).run (.collecting entity index []) := by
  induction collections generalizing entity index with
  | nil => exact ⟨index, rfl⟩
  | cons collection rest ih =>
    refine (follows_query _ _ _).bind fun limit after same => ?_
    subst after
    refine (follows_collect entity index limit []).bind fun values after same => ?_
    subst after
    refine ⟨rfl, fun _ => ?_⟩
    cases decoded : mapping.decodeCollection entity index values with
    | error error =>
      simp only [observe, Exchange.failure?, decoded]
      rfl
    | ok next =>
      simp only [observe, Exchange.failure?, decoded]
      exact ih next (index + 1)

theorem follows_readEntity (id : String) :
    mapping.Follows (fun result after => ∃ count, after = .collecting result count [])
      (mapping.readEntity id).run (.seeking id true) := by
  refine (follows_query _ _ _).bind fun limit after same => ?_
  subst after
  refine ⟨rfl, fun response => ?_⟩
  rcases response with error | _ | rest
  · rfl
  · rfl
  refine follows_scan mapping.decodeRow _ fun row => ?_
  cases decoded : mapping.decodeRow row with
  | error error => simp only [observe, Exchange.failure?, decoded]
  | ok entity =>
    refine ⟨.decoded entity, by simp only [observe, Exchange.failure?, decoded], rfl, fun _ => ?_⟩
    exact follows_readCollections _ entity 0 _

end EntityStore.Mapping
