import EntityStore.Repository

/-! What a run of a procedure says to its store and hears from it. The exchanges of a run are read off the same tree
that the run descends, so they are a view of the run and not another execution of it. -/

namespace EntityStore

/-- A request with the answer it got. -/
structure Exchange where
  request : Request
  response : request.Response

namespace Exchange

/-- The error that a request was answered with. A close cannot fail. -/
def failure? : Exchange → Option StatementError
  | ⟨.begin, .error error⟩ | ⟨.execute .., .error error⟩ | ⟨.query .., .error error⟩ | ⟨.advance _, .error error⟩
  | ⟨.scan, .error error⟩ | ⟨.commit, .error error⟩ | ⟨.rollback, .error error⟩ | ⟨.check, .error error⟩ => some error
  | _ => none

/-- A look at the token stays with the caller. -/
def reachesStore (exchange : Exchange) : Bool := exchange.request != .check

end Exchange

namespace Procedure
variable {σ : Type} (store : Store σ)

/-- The exchanges of a run, in order. -/
def exchanges : Procedure α → σ → List Exchange
  | .done _, _ => []
  | .call request next, state =>
      let answered := store.answer request state
      ⟨request, answered.1⟩ :: (next answered.1).exchanges answered.2

theorem run_ask (request : Request) (state : σ) : (ask request).run store state = store.answer request state := rfl

theorem exchanges_ask (request : Request) (state : σ) :
    (ask request).exchanges store state = [⟨request, (store.answer request state).1⟩] := rfl

theorem run_bind (procedure : Procedure α) (next : α → Procedure β) (state : σ) :
    (procedure.bind next).run store state =
      (next (procedure.run store state).1).run store (procedure.run store state).2 := by
  induction procedure generalizing state with
  | done result => rfl
  | call request rest ih => exact ih _ _

theorem exchanges_bind (procedure : Procedure α) (next : α → Procedure β) (state : σ) :
    (procedure.bind next).exchanges store state =
      procedure.exchanges store state ++
        (next (procedure.run store state).1).exchanges store (procedure.run store state).2 := by
  induction procedure generalizing state with
  | done result => rfl
  | call request rest ih => exact congrArg (List.cons _) (ih _ _)

end Procedure

namespace Operation
variable {σ : Type} (store : Store σ)

abbrev result (operation : Operation α) (state : σ) : Except CrudError α × σ := operation.run.run store state

abbrev exchanges (operation : Operation α) (state : σ) : List Exchange := operation.run.exchanges store state

theorem result_bind (operation : Operation α) (next : α → Operation β) (state : σ) :
    (operation >>= next).result store state =
      match operation.result store state with
      | (.ok value, after) => (next value).result store after
      | (.error error, after) => (.error error, after) := by
  refine (Procedure.run_bind store operation.run _ state).trans ?_
  cases answered : Procedure.run store operation.run state with
  | mk outcome after => cases outcome <;> simp only [result, answered] <;> rfl

theorem exchanges_bind (operation : Operation α) (next : α → Operation β) (state : σ) :
    (operation >>= next).exchanges store state =
      operation.exchanges store state ++
        match operation.result store state with
        | (.ok value, after) => (next value).exchanges store after
        | (.error _, _) => [] := by
  refine (Procedure.exchanges_bind store operation.run _ state).trans (congrArg _ ?_)
  cases answered : Procedure.run store operation.run state with
  | mk outcome after => cases outcome <;> simp only [result, answered] <;> rfl

end Operation
end EntityStore
