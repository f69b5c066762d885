import EntityStore.Proofs.Conduct
import EntityStore.Proofs.Transacted

/-! The shape of a call's exchanges on any store, together with its outcome. Everything a call does between its begin
and the one request that ends it is judged by the observer, so the shape also says which failure an error reports. -/

namespace EntityStore
variable {E σ : Type}

/-- Requests between the begin of a transaction and its commit or rollback. -/
def Request.isInner (request : Request) : Bool := request.isStep || request == .check

namespace Mapping
variable (mapping : Mapping E)

/-- What a reply says about the stage that the exchanges before it lead to. -/
def Told : Reply E → Stage E → Prop
  | .done, stage => stage = .writing
  | .found entity, stage => ∃ count, stage = .collecting entity count []

/-- How the exchanges of a call go with its outcome. -/
inductive Conducted (call : Call E) : List Exchange → Except CrudError (Reply E) → Prop where
  | refused (error : StatementError) : Conducted call [⟨.begin, .error error⟩] (.error (.statement error))
  | undone {before : List Exchange} {stage : Stage E} {failing : Exchange} {primary : CrudError}
      (answer : Except StatementError Unit)
      (inner : ∀ exchange ∈ before, exchange.request.isInner = true)
      (other : failing.request.isInner = true ∨ failing.request = .commit)
      (surveyed : mapping.survey (mapping.outset call) before = .ok stage)
      (failed : mapping.observe stage failing = .error primary) :
      Conducted call (⟨.begin, .ok ()⟩ :: (before ++ [failing, ⟨.rollback, answer⟩]))
        (.error (Operation.afterRollback primary answer))
  | committed {before : List Exchange} {stage : Stage E} {reply : Reply E}
      (inner : ∀ exchange ∈ before, exchange.request.isInner = true)
      (surveyed : mapping.survey (mapping.outset call) before = .ok stage) (told : Told reply stage) :
      Conducted call (⟨.begin, .ok ()⟩ :: (before ++ [⟨.commit, .ok ()⟩])) (.ok reply)

variable {mapping}

theorem survey_append (stage : Stage E) (first rest : List Exchange) :
    mapping.survey stage (first ++ rest) = mapping.survey stage first >>= fun after => mapping.survey after rest := by
  simp only [survey, List.foldlM_append]

theorem observe_failure {stage : Stage E} {exchange : Exchange} {error : StatementError}
    (failed : exchange.failure? = some error) : mapping.observe stage exchange = .error (.statement error) := by
  simp only [observe, failed]

theorem observe_check (stage : Stage E) : mapping.observe stage ⟨.check, .ok ()⟩ = .ok stage := by
  cases stage <;> rfl

private theorem inner_checked {steps : List Exchange} (inner : ∀ exchange ∈ steps, exchange.request.isInner = true) :
    ∀ exchange ∈ steps ++ [⟨.check, .ok ()⟩], exchange.request.isInner = true := by
  intro exchange member
  rcases List.mem_append.mp member with member | member
  · exact inner exchange member
  · rw [List.mem_singleton.mp member]
    rfl

private theorem survey_checked {stage after : Stage E} {steps : List Exchange}
    (surveyed : mapping.survey stage steps = .ok after) :
    mapping.survey stage (steps ++ [⟨.check, .ok ()⟩]) = .ok after := by
  rw [survey_append, surveyed]
  exact congrArg (· >>= pure) (observe_check after)

/-- A transaction around a body that follows the observer goes as a call should. -/
theorem Conducted.ofTransacted {call : Call E} {store : Store σ} {body : Operation α} {reply : α → Reply E}
    {state ended : σ} {outcome : Except CrudError α} {exchanges : List Exchange}
    (follows : mapping.Follows (fun value => Told (reply value)) body.run (mapping.outset call))
    (transacted : Operation.Transacted store body state outcome ended exchanges) :
    mapping.Conducted call exchanges (outcome.map reply) := by
  have inner (opened : σ) : ∀ exchange ∈ body.exchanges store opened, exchange.request.isInner = true := by
    intro exchange member
    simp only [Request.isInner, follows.steps store opened exchange member, Bool.true_or]
  have split (opened : σ) := follows.outcome store opened
  cases transacted with
  | refused begun => exact .refused _
  | @failed opened primary left answer _ begun ran undone =>
    have ended := split opened
    simp only [ran] at ended
    obtain ⟨before, last, stage, same, surveyed, failed⟩ := ended
    have all := inner opened
    rw [same] at all ⊢
    rw [List.append_assoc]
    exact .undone answer (fun exchange member => all exchange (List.mem_append_left _ member))
      (.inl (all last (by simp))) surveyed failed
  | @stopped opened value left error checked answer _ begun ran looked undone =>
    have ended := split opened
    simp only [ran] at ended
    obtain ⟨stage, surveyed, -⟩ := ended
    exact .undone answer (inner opened) (.inl rfl) surveyed (observe_failure rfl)
  | @uncommitted opened value left checked error tried answer _ begun ran looked kept undone =>
    have ended := split opened
    simp only [ran] at ended
    obtain ⟨stage, surveyed, -⟩ := ended
    have refused : (⟨.commit, .error error⟩ : Exchange).failure? = some error := rfl
    have shape := Conducted.undone answer (inner_checked (inner opened)) (.inr rfl) (survey_checked surveyed)
      (observe_failure refused)
    rw [List.append_assoc] at shape
    exact shape
  | @committed opened value left checked _ begun ran looked kept =>
    have ended := split opened
    simp only [ran] at ended
    obtain ⟨stage, surveyed, told⟩ := ended
    have shape := Conducted.committed (inner_checked (inner opened)) (survey_checked surveyed) told
    rw [List.append_assoc] at shape
    exact shape

theorem transacted_around {α : Type} {call : Call E} {body : Operation α} {reply : α → Reply E}
    (same : mapping.operation call = do return reply (← Operation.inTransaction body)) (store : Store σ) (state : σ) :
    ∃ outcome, Operation.Transacted store body state outcome ((mapping.operation call).result store state).2
        ((mapping.operation call).exchanges store state) ∧
      ((mapping.operation call).result store state).1 = outcome.map reply := by
  have transacted := Operation.transacted store body state
  refine ⟨((Operation.inTransaction body).result store state).1, ?_⟩
  rw [same, Operation.result_bind, Operation.exchanges_bind]
  generalize (Operation.inTransaction body).result store state = ended at transacted
  rcases ended with ⟨error | value, left⟩
  · exact ⟨by rw [List.append_nil]; exact transacted, rfl⟩
  · refine ⟨?_, rfl⟩
    change Operation.Transacted _ _ _ _ _ (_ ++ [])
    rw [List.append_nil]
    exact transacted

theorem operation_transacted (mapping : Mapping E) (store : Store σ) (call : Call E) (state : σ) :
    ∃ (α : Type) (body : Operation α) (reply : α → Reply E) (outcome : Except CrudError α),
      mapping.Follows (fun value => Told (reply value)) body.run (mapping.outset call) ∧
      Operation.Transacted store body state outcome ((mapping.operation call).result store state).2
        ((mapping.operation call).exchanges store state) ∧
      ((mapping.operation call).result store state).1 = outcome.map reply := by
  have around {α : Type} {body : Operation α} {reply : α → Reply E}
      (same : mapping.operation call = do return reply (← Operation.inTransaction body))
      (follows : mapping.Follows (fun value => Told (reply value)) body.run (mapping.outset call)) :=
    (transacted_around same store state).imp fun _ ran => And.intro follows ran
  cases call with
  | create entity => exact ⟨_, _, fun _ => .done, around rfl (follows_insertEntity entity)⟩
  | read id => exact ⟨_, _, .found, around rfl (follows_readEntity id)⟩
  | update entity mask => exact ⟨_, _, fun _ => .done, around rfl (follows_updateEntity entity mask)⟩
  | delete id => exact ⟨_, _, fun _ => .done, around rfl (follows_deleteEntity id)⟩

theorem conducted (mapping : Mapping E) (store : Store σ) (call : Call E) (state : σ) :
    mapping.Conducted call ((mapping.operation call).exchanges store state)
      ((mapping.operation call).result store state).1 := by
  obtain ⟨α, body, reply, outcome, follows, transacted, same⟩ := mapping.operation_transacted store call state
  rw [same]
  exact .ofTransacted follows transacted

end Mapping
end EntityStore
