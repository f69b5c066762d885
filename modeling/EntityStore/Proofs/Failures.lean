import EntityStore.Proofs.Protocol

/-! What a failed call reports, whatever its store answers: the failure of its begin, or else its first failure, together
with that of the rollback if there is one. An absent row is reported where a read or an update saw none, and nowhere
else. -/

namespace EntityStore
variable {E σ : Type}

namespace Exchange

def findsNone : List Exchange → Bool
  | [] => false
  | ⟨.advance _, .ok none⟩ :: _ => true
  | ⟨.advance _, _⟩ :: _ | ⟨.query .., _⟩ :: _ => false
  | _ :: rest => findsNone rest

/-- Whether the first query was answered, and the first look at its cursor found no row. -/
def seesNoRow : List Exchange → Bool
  | [] => false
  | ⟨.query .., .ok _⟩ :: rest => findsNone rest
  | ⟨.query .., .error _⟩ :: _ => false
  | _ :: rest => seesNoRow rest

end Exchange

def Call.seeks : Call E → Bool
  | .read _ | .update .. => true
  | .create _ | .delete _ => false

namespace Operation
variable {α : Type}

def seek (statement : Statement) (parameters : List Value) (absent : CrudError) (next : Operation α) : Operation α := do
  let limit ← query statement parameters
  match ← advance limit with
  | none => throw absent
  | some _ => next

/-- The ways to look for a row and go on. -/
inductive Sought (store : Store σ) (statement : Statement) (parameters : List Value) (absent : CrudError)
    (next : Operation α) : Except CrudError α → List Exchange → Prop where
  | unanswered (error : StatementError) : Sought store statement parameters absent next (.error (.statement error))
      [⟨.query statement parameters, .error error⟩]
  | stuck (limit : Nat) (error : StatementError) :
      Sought store statement parameters absent next (.error (.statement error))
        [⟨.query statement parameters, .ok limit⟩, ⟨.advance limit, .error error⟩]
  | missed (limit : Nat) : Sought store statement parameters absent next (.error absent)
      [⟨.query statement parameters, .ok limit⟩, ⟨.advance limit, .ok none⟩]
  | found (limit : Nat) (rest : Fin limit) (state : σ) :
      Sought store statement parameters absent next (next.result store state).1
        (⟨.query statement parameters, .ok limit⟩ :: ⟨.advance limit, .ok (some rest)⟩ :: next.exchanges store state)

theorem sought (store : Store σ) (statement : Statement) (parameters : List Value) (absent : CrudError)
    (next : Operation α) (state : σ) :
    Sought store statement parameters absent next ((seek statement parameters absent next).result store state).1
      ((seek statement parameters absent next).exchanges store state) := by
  unfold seek query
  rw [result_bind, exchanges_bind, result_ofStatement, exchanges_ofStatement, Procedure.run_ask, Procedure.exchanges_ask]
  rcases store.answer (.query statement parameters) state with ⟨error | limit, opened⟩
  · exact .unanswered error
  simp only [mapError_ok]
  unfold advance
  rw [result_bind, exchanges_bind, result_ofStatement, exchanges_ofStatement, Procedure.run_ask, Procedure.exchanges_ask]
  rcases store.answer (.advance limit) opened with ⟨error | _ | rest, moved⟩
  · exact .stuck limit error
  · exact .missed limit
  · exact .found limit rest moved

theorem seek_absent {store : Store σ} {statement : Statement} {parameters : List Value} {absent : CrudError}
    {next : Operation α} (reports : absent.isNotFound = true)
    (later : ∀ state error, (next.result store state).1 = .error error → error.isNotFound = false) {outcome : Except CrudError α}
    {exchanges : List Exchange} (sought : Sought store statement parameters absent next outcome exchanges)
    (rest : List Exchange) :
    Exchange.seesNoRow (exchanges ++ rest) = true ↔ ∃ error, outcome = .error error ∧ error.isNotFound = true := by
  cases sought with
  | unanswered error => simp [Exchange.seesNoRow, CrudError.isNotFound]
  | stuck limit error => simp [Exchange.seesNoRow, Exchange.findsNone, CrudError.isNotFound]
  | missed limit => simp [Exchange.seesNoRow, Exchange.findsNone, reports]
  | found limit row state =>
    refine iff_of_false (by simp [Exchange.seesNoRow, Exchange.findsNone]) ?_
    rintro ⟨error, failed, absent⟩
    rw [later state error failed] at absent
    cases absent

end Operation

def Stage.seeks : Stage E → Bool
  | .seeking .. => true
  | .found | .decoded _ | .collecting .. | .writing => false

namespace Mapping
variable {mapping : Mapping E} {stage : Stage E}

/-- What an observer says once it is past the row of the id: it stays past it, or a failure that is not an absent row. -/
def IsPast : Except CrudError (Stage E) → Prop
  | .ok after => after.seeks = false
  | .error error => error.isNotFound = false

theorem observe_past (past : stage.seeks = false) (exchange : Exchange) : IsPast (mapping.observe stage exchange) := by
  unfold observe
  split
  · rfl
  split <;> first | rfl | (split <;> rfl) | exact past

theorem survey_past (past : stage.seeks = false) {exchanges : List Exchange} {after : Stage E}
    (surveyed : mapping.survey stage exchanges = .ok after) : after.seeks = false := by
  induction exchanges generalizing stage with
  | nil =>
    cases surveyed
    exact past
  | cons first rest ih =>
    have step : IsPast (mapping.observe stage first) := observe_past past first
    cases seen : mapping.observe stage first with
    | error error =>
      simp only [survey, List.foldlM_cons, seen] at surveyed
      cases surveyed
    | ok next =>
      simp only [survey, List.foldlM_cons, seen] at surveyed
      rw [seen] at step
      exact ih step surveyed

theorem Follows.past {α : Type} {body : Operation α} {good : α → Stage E → Prop}
    (follows : mapping.Follows good body.run stage) (past : stage.seeks = false) (store : Store σ) (state : σ)
    (error : CrudError) (failed : (body.result store state).1 = .error error) : error.isNotFound = false := by
  have ended := follows.outcome store state
  simp only [failed] at ended
  obtain ⟨before, last, reached, -, surveyed, stopped⟩ := ended
  have step : IsPast (mapping.observe reached last) := observe_past (survey_past past surveyed) last
  rw [stopped] at step
  exact step

theorem Follows.seek_past {α : Type} {statement : Statement} {parameters : List Value} {next : Operation α}
    {good : α → Stage E → Prop} {id : String} {reads : Bool}
    (follows : mapping.Follows good (Operation.seek statement parameters (mapping.notFound id) next).run
      (.seeking id reads)) (store : Store σ) :
    ∀ state error, (next.result store state).1 = .error error → error.isNotFound = false := by
  cases reads with
  | true =>
    have found : mapping.Follows good next.run .found := (follows.2 (.ok 1)).2 (.ok (some 0))
    exact found.past rfl store
  | false =>
    have writing : mapping.Follows good next.run .writing := (follows.2 (.ok 1)).2 (.ok (some 0))
    exact writing.past rfl store

theorem isNotFound_afterRollback (primary : CrudError) (answer : Except StatementError Unit) :
    (Operation.afterRollback primary answer).isNotFound = primary.isNotFound := by
  cases answer with
  | ok _ => rfl
  | error error => exact Bool.or_false _

theorem absent_transacted {α : Type} {store : Store σ} {body : Operation α} {state ended : σ}
    {outcome : Except CrudError α} {exchanges : List Exchange}
    (transacted : Operation.Transacted store body state outcome ended exchanges)
    (absent : ∀ opened rest, Exchange.seesNoRow (body.exchanges store opened ++ rest) = true ↔
      ∃ error, (body.result store opened).1 = .error error ∧ error.isNotFound = true) :
    (∃ error, outcome = .error error ∧ error.isNotFound = true) ↔ Exchange.seesNoRow exchanges = true := by
  cases transacted with
  | refused begun => simp [Exchange.seesNoRow, CrudError.isNotFound]
  | @failed opened primary left answer _ begun ran undone =>
    refine Iff.trans ?_ (absent opened _).symm
    simp [ran, isNotFound_afterRollback]
  | @stopped opened value left error checked answer _ begun ran looked undone =>
    refine Iff.trans ?_ (absent opened _).symm
    simp [ran, isNotFound_afterRollback, CrudError.isNotFound]
  | @uncommitted opened value left checked error tried answer _ begun ran looked kept undone =>
    refine Iff.trans ?_ (absent opened _).symm
    simp [ran, isNotFound_afterRollback, CrudError.isNotFound]
  | @committed opened value left checked _ begun ran looked kept =>
    refine Iff.trans ?_ (absent opened _).symm
    simp [ran]

theorem absent_seeks {call : Call E} {α : Type} {statement : Statement} {parameters : List Value} {next : Operation α}
    {good : α → Stage E → Prop} {id : String} {reads : Bool} (reply : α → Reply E)
    (same : mapping.operation call = do
      return reply (← Operation.inTransaction (Operation.seek statement parameters (mapping.notFound id) next)))
    (follows : mapping.Follows good (Operation.seek statement parameters (mapping.notFound id) next).run
      (.seeking id reads)) (store : Store σ) (state : σ) :
    (∃ error, ((mapping.operation call).result store state).1 = .error error ∧ error.isNotFound = true) ↔
      Exchange.seesNoRow ((mapping.operation call).exchanges store state) = true := by
  obtain ⟨outcome, transacted, result⟩ := transacted_around same store state
  have absent := absent_transacted transacted fun opened rest =>
    Operation.seek_absent rfl (follows.seek_past store) (Operation.sought ..) rest
  rw [result, ← absent]
  cases outcome <;> simp [Except.map]

theorem Conducted.present {call : Call E} {exchanges : List Exchange} {error : CrudError}
    (conducted : mapping.Conducted call exchanges (.error error)) (writes : mapping.outset call = .writing) :
    error.isNotFound = false := by
  cases conducted with
  | refused error => rfl
  | @undone before stage failing primary answer inner other surveyed failed =>
    have past : (mapping.outset call).seeks = false := by rw [writes]; rfl
    have step : IsPast (mapping.observe stage failing) := observe_past (survey_past past surveyed) failing
    rw [failed] at step
    rw [isNotFound_afterRollback]
    exact step

theorem operation_absent (mapping : Mapping E) (store : Store σ) (call : Call E) (state : σ) :
    (∃ error, ((mapping.operation call).result store state).1 = .error error ∧ error.isNotFound = true) ↔
      call.seeks = true ∧ Exchange.seesNoRow ((mapping.operation call).exchanges store state) = true := by
  have shape := mapping.conducted store call state
  have writes (only : mapping.outset call = .writing) :
      ¬ ∃ error, ((mapping.operation call).result store state).1 = .error error ∧ error.isNotFound = true := by
    rintro ⟨error, failed, absent⟩
    rw [failed] at shape
    rw [shape.present only] at absent
    cases absent
  cases call with
  | create entity => exact iff_of_false (writes rfl) (by simp [Call.seeks])
  | delete id => exact iff_of_false (writes rfl) (by simp [Call.seeks])
  | read id =>
    simp only [Call.seeks, true_and]
    exact absent_seeks .found rfl (follows_readEntity id) store state
  | update entity mask =>
    simp only [Call.seeks, true_and]
    exact absent_seeks (fun _ => .done) rfl (follows_updateEntity entity mask) store state

/-- Whether a call fails first at the given exchange, and with this failure. -/
def FailsWith (mapping : Mapping E) (call : Call E) (before : List Exchange) (failing : Exchange) (primary : CrudError) :
    Prop :=
  ∃ stage, mapping.survey (mapping.outset call) before = .ok stage ∧ mapping.observe stage failing = .error primary

/-- What the outcome of a call says about the failures among its exchanges. -/
structure ReportsFailures (mapping : Mapping E) (call : Call E) (exchanges : List Exchange)
    (outcome : Except CrudError (Reply E)) : Prop where
  refused : ∀ rest cause, exchanges = ⟨.begin, .error cause⟩ :: rest → outcome = .error (.statement cause)
  reported : ∀ rest error, exchanges = ⟨.begin, .ok ()⟩ :: rest → outcome = .error error →
    ∃ before failing primary answer, exchanges = before ++ [failing, ⟨.rollback, answer⟩] ∧
      mapping.FailsWith call before failing primary ∧
      match answer with
      | .ok () => error = primary
      | .error cause => error = .composite primary [.statement cause]
  /-- No call succeeds over a failure. -/
  noticed : ∀ before failing after primary, exchanges = before ++ failing :: after →
    mapping.FailsWith call before failing primary → ∃ error, outcome = .error error
  absent : (∃ error, outcome = .error error ∧ error.isNotFound = true) ↔
    call.seeks = true ∧ Exchange.seesNoRow exchanges = true

/-- Whatever the store answers and whenever the token is cancelled, a call that fails reports its failures. -/
theorem perform_reportsFailures (mapping : Mapping E) (store : Store σ) (call : Call E) (state : σ) :
    mapping.ReportsFailures call (mapping.exchanges store call state) (mapping.perform store call state).1 := by
  have sees := mapping.operation_absent store call state
  have shape := mapping.conducted store call state
  rw [(mapping.perform_eq store call state).1]
  unfold exchanges
  generalize (mapping.operation call).exchanges store state = exchanges at sees shape
  generalize ((mapping.operation call).result store state).1 = outcome at sees shape
  refine ⟨?_, ?_, ?_, sees⟩
  · rintro rest cause rfl
    cases shape with
    | refused error => rfl
  · rintro rest error rfl rfl
    cases shape with
    | @undone before stage failing primary answer inner other surveyed failed =>
      refine ⟨⟨.begin, .ok ()⟩ :: before, failing, primary, answer, rfl,
        ⟨stage, (survey_begin _ _).trans surveyed, failed⟩, ?_⟩
      cases answer <;> rfl
  · rintro before failing after primary rfl ⟨stage, surveyed, failed⟩
    cases outcome with
    | error error => exact ⟨error, rfl⟩
    | ok reply =>
      obtain ⟨after, passed⟩ := shape.surveyed
      have fails : mapping.FailsFirst call before failing := ⟨stage, primary, surveyed, failed⟩
      exact absurd passed (fails.not_surveyed _ after)

end Mapping
end EntityStore
