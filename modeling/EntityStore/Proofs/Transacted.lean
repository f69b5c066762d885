import EntityStore.Proofs.Exchange

/-! The ways a transaction around a body can go. What a body does is left open here, so the five ways are those of every
operation on every store. -/

namespace EntityStore.Operation
variable {σ : Type}

/-- The outcome of a transaction, the state it leaves and its exchanges, as the store answers them. -/
inductive Transacted (store : Store σ) (body : Operation α) (state : σ) :
    Except CrudError α → σ → List Exchange → Prop where
  | refused {error opened} (begun : store.answer .begin state = (.error error, opened)) :
      Transacted store body state (.error (.statement error)) opened [⟨.begin, .error error⟩]
  | failed {opened primary left answer ended} (begun : store.answer .begin state = (.ok (), opened))
      (ran : body.result store opened = (.error primary, left))
      (undone : store.answer .rollback left = (answer, ended)) :
      Transacted store body state (.error (afterRollback primary answer)) ended
        (⟨.begin, .ok ()⟩ :: (body.exchanges store opened ++ [⟨.rollback, answer⟩]))
  | stopped {opened value left error checked answer ended} (begun : store.answer .begin state = (.ok (), opened))
      (ran : body.result store opened = (.ok value, left))
      (looked : store.answer .check left = (.error error, checked))
      (undone : store.answer .rollback checked = (answer, ended)) :
      Transacted store body state (.error (afterRollback (.statement error) answer)) ended
        (⟨.begin, .ok ()⟩ :: (body.exchanges store opened ++ [⟨.check, .error error⟩, ⟨.rollback, answer⟩]))
  | uncommitted {opened value left checked error tried answer ended}
      (begun : store.answer .begin state = (.ok (), opened))
      (ran : body.result store opened = (.ok value, left))
      (looked : store.answer .check left = (.ok (), checked))
      (kept : store.answer .commit checked = (.error error, tried))
      (undone : store.answer .rollback tried = (answer, ended)) :
      Transacted store body state (.error (afterRollback (.statement error) answer)) ended
        (⟨.begin, .ok ()⟩ :: (body.exchanges store opened ++
          [⟨.check, .ok ()⟩, ⟨.commit, .error error⟩, ⟨.rollback, answer⟩]))
  | committed {opened value left checked ended} (begun : store.answer .begin state = (.ok (), opened))
      (ran : body.result store opened = (.ok value, left))
      (looked : store.answer .check left = (.ok (), checked))
      (kept : store.answer .commit checked = (.ok (), ended)) :
      Transacted store body state (.ok value) ended
        (⟨.begin, .ok ()⟩ :: (body.exchanges store opened ++ [⟨.check, .ok ()⟩, ⟨.commit, .ok ()⟩]))

variable (store : Store σ)

theorem mapError_ok {β : Type} (value : β) :
    (Except.ok value : Except StatementError β).mapError CrudError.statement = .ok value := rfl

theorem result_ofStatement (answer : Procedure (Except StatementError α)) (state : σ) :
    (ofStatement answer).result store state =
      ((answer.run store state).1.mapError .statement, (answer.run store state).2) := by
  refine (Procedure.run_bind store answer _ state).trans ?_
  cases answered : answer.run store state with
  | mk outcome after => cases outcome <;> rfl

theorem exchanges_ofStatement (answer : Procedure (Except StatementError α)) (state : σ) :
    (ofStatement answer).exchanges store state = answer.exchanges store state := by
  refine (Procedure.exchanges_bind store answer _ state).trans ?_
  cases answered : answer.run store state with
  | mk outcome after => cases outcome <;> exact List.append_nil _

theorem result_orRollback (operation : Operation α) (state : σ) :
    (orRollback operation).result store state =
      match operation.result store state with
      | (.ok value, after) => (.ok value, after)
      | (.error primary, after) =>
          (.error (afterRollback primary (store.answer .rollback after).1), (store.answer .rollback after).2) := by
  refine (Procedure.run_bind store operation.run _ state).trans ?_
  cases answered : Procedure.run store operation.run state with
  | mk outcome after => cases outcome <;> simp only [result, answered] <;> rfl

theorem exchanges_orRollback (operation : Operation α) (state : σ) :
    (orRollback operation).exchanges store state =
      operation.exchanges store state ++
        match operation.result store state with
        | (.ok _, _) => []
        | (.error _, after) => [⟨.rollback, (store.answer .rollback after).1⟩] := by
  refine (Procedure.exchanges_bind store operation.run _ state).trans (congrArg _ ?_)
  cases answered : Procedure.run store operation.run state with
  | mk outcome after => cases outcome <;> simp only [result, answered] <;> rfl

theorem transacted (body : Operation α) (state : σ) :
    Transacted store body state ((inTransaction body).result store state).1 ((inTransaction body).result store state).2
      ((inTransaction body).exchanges store state) := by
  have done (value : α) (state : σ) : (pure value : Operation α).result store state = (.ok value, state) := rfl
  have silent (value : α) (state : σ) : (pure value : Operation α).exchanges store state = [] := rfl
  unfold inTransaction
  rw [result_bind, exchanges_bind, result_ofStatement, exchanges_ofStatement, Procedure.run_ask, Procedure.exchanges_ask]
  rcases begun : store.answer .begin state with ⟨_ | _, opened⟩
  · exact .refused begun
  simp only [mapError_ok, result_orRollback, exchanges_orRollback, guarded, result_bind, exchanges_bind]
  rcases ran : body.result store opened with ⟨primary | value, left⟩
  · simpa using .failed begun ran rfl
  simp only [result_ofStatement, exchanges_ofStatement]
  rw [Procedure.run_ask, Procedure.exchanges_ask]
  rcases looked : store.answer .check left with ⟨error | _, checked⟩
  · simpa using .stopped begun ran looked rfl
  simp only [mapError_ok, done, silent]
  rw [Procedure.run_ask, Procedure.exchanges_ask]
  rcases kept : store.answer .commit checked with ⟨error | _, tried⟩
  · simpa using .uncommitted begun ran looked kept rfl
  · simpa using .committed begun ran looked kept

end EntityStore.Operation
