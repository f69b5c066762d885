import EntityStore.Proofs.Exchange

/-! An observer of calls. It sees the exchanges of a call one after the other and says at which of them the call has
failed and why, without running the call: a request that was answered with an error, a parent row that is not there, or
something read that cannot be decoded. A body follows the observer when it stops with the observer's error as soon as
there is one, and goes on as long as there is none. -/

namespace EntityStore

/-- What the answers so far have told about the entity of a call. -/
inductive Stage (E : Type) where
  | seeking (id : String) (reads : Bool)
  | found
  | decoded (entity : E)
  | collecting (entity : E) (index : Nat) (values : List Value)
  | writing

def Request.isStep : Request → Bool
  | .execute .. | .query .. | .advance _ | .scan | .close => true
  | .begin | .commit | .rollback | .check => false

namespace Mapping
variable {E : Type} (mapping : Mapping E)

def observe (stage : Stage E) (exchange : Exchange) : Except CrudError (Stage E) :=
  match exchange.failure? with
  | some error => .error (.statement error)
  | none =>
      match stage, exchange with
      | .seeking id _, ⟨.advance _, .ok none⟩ => .error (mapping.notFound id)
      | .seeking _ true, ⟨.advance _, .ok (some _)⟩ => .ok .found
      | .seeking _ false, ⟨.advance _, .ok (some _)⟩ => .ok .writing
      | .found, ⟨.scan, .ok row⟩ =>
          match mapping.decodeRow row with
          | .ok entity => .ok (.decoded entity)
          | .error error => .error (.codec error)
      | .decoded entity, ⟨.close, _⟩ => .ok (.collecting entity 0 [])
      | .collecting entity index values, ⟨.scan, .ok row⟩ =>
          match Codec.column row 0 with
          | .ok value => .ok (.collecting entity index (values ++ [value]))
          | .error error => .error (.codec error)
      | .collecting entity index values, ⟨.close, _⟩ =>
          match mapping.decodeCollection entity index values with
          | .ok next => .ok (.collecting next (index + 1) [])
          | .error error => .error (.codec error)
      | stage, _ => .ok stage

def outset : Call E → Stage E
  | .read id => .seeking id true
  | .update entity _ => .seeking (mapping.id entity) false
  | .create _ | .delete _ => .writing

def survey (stage : Stage E) (exchanges : List Exchange) : Except CrudError (Stage E) :=
  exchanges.foldlM mapping.observe stage

/-- Whether a body makes steps only, agrees with the observer at each of them, and ends well in a stage that is good
for its result. -/
def Follows (good : α → Stage E → Prop) : Procedure (Except CrudError α) → Stage E → Prop
  | .done (.ok value), stage => good value stage
  | .done (.error _), _ => False
  | .call request next, stage =>
      request.isStep = true ∧ ∀ response,
        match mapping.observe stage ⟨request, response⟩ with
        | .ok after => Follows good (next response) after
        | .error error => next response = .done (.error error)

variable {mapping}

theorem Follows.bind {body : Operation α} {next : α → Operation β} {good : α → Stage E → Prop}
    {best : β → Stage E → Prop} {stage : Stage E} (follows : mapping.Follows good body.run stage)
    (rest : ∀ value after, good value after → mapping.Follows best (next value).run after) :
    mapping.Follows best (body >>= next).run stage := by
  change mapping.Follows best (Procedure.bind body.run (ExceptT.bindCont next)) stage
  generalize body.run = procedure at follows
  induction procedure generalizing stage with
  | done outcome =>
    cases outcome with
    | ok value => exact rest value stage follows
    | error error => exact follows.elim
  | call request answer ih =>
    refine ⟨follows.1, fun response => ?_⟩
    have step := follows.2 response
    cases seen : mapping.observe stage ⟨request, response⟩ with
    | ok after =>
      simp only [seen] at step
      exact ih response step
    | error error =>
      simp only [seen] at step
      simp only [step]
      rfl

theorem Follows.steps {body : Operation α} {good : α → Stage E → Prop} {stage : Stage E}
    (follows : mapping.Follows good body.run stage) (store : Store σ) (state : σ) :
    ∀ exchange ∈ body.exchanges store state, exchange.request.isStep = true := by
  unfold Operation.exchanges
  generalize body.run = procedure at follows
  induction procedure generalizing stage state with
  | done outcome => simp [Procedure.exchanges]
  | call request answer ih =>
    intro exchange member
    rcases List.mem_cons.mp member with rfl | member
    · exact follows.1
    have step := follows.2 (store.answer request state).1
    cases seen : mapping.observe stage ⟨request, (store.answer request state).1⟩ with
    | ok after =>
      simp only [seen] at step
      exact ih _ _ step exchange member
    | error error =>
      simp only [seen] at step
      simp only [step, Procedure.exchanges] at member
      cases member

/-- On any store a body that follows the observer ends as its exchanges say: with a good result where none of them
fails, and otherwise with the failure that the last of them is. -/
theorem Follows.outcome {body : Operation α} {good : α → Stage E → Prop} {stage : Stage E}
    (follows : mapping.Follows good body.run stage) (store : Store σ) (state : σ) :
    match (body.result store state).1 with
    | .ok value => ∃ after, mapping.survey stage (body.exchanges store state) = .ok after ∧ good value after
    | .error error => ∃ before last reached, body.exchanges store state = before ++ [last] ∧
        mapping.survey stage before = .ok reached ∧ mapping.observe reached last = .error error := by
  unfold Operation.exchanges Operation.result
  generalize body.run = procedure at follows
  induction procedure generalizing stage state with
  | done outcome =>
    cases outcome with
    | ok value => exact ⟨stage, rfl, follows⟩
    | error error => exact follows.elim
  | call request answer ih =>
    have step := follows.2 (store.answer request state).1
    simp only [Procedure.run, Procedure.exchanges]
    cases seen : mapping.observe stage ⟨request, (store.answer request state).1⟩ with
    | error error =>
      simp only [seen] at step
      simp only [step, Procedure.run, Procedure.exchanges]
      exact ⟨[], _, stage, rfl, rfl, seen⟩
    | ok after =>
      simp only [seen] at step
      have later := ih _ (store.answer request state).2 step
      cases ended : ((answer (store.answer request state).1).run store (store.answer request state).2).1 with
      | ok value =>
        simp only [ended] at later
        obtain ⟨final, surveyed, holds⟩ := later
        refine ⟨final, ?_, holds⟩
        simp only [survey, List.foldlM_cons, seen]
        exact surveyed
      | error error =>
        simp only [ended] at later
        obtain ⟨before, last, reached, split, surveyed, failed⟩ := later
        refine ⟨⟨request, (store.answer request state).1⟩ :: before, last, reached, by rw [split]; rfl, ?_, failed⟩
        simp only [survey, List.foldlM_cons, seen]
        exact surveyed

end Mapping
end EntityStore
