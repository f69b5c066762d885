import EntityStore.Proofs.Engine.Wrapping
import EntityStore.Script

/-! Stores beside which a token is watched. A lost token stays lost, whatever a store does in the meantime. All stores
are such, and any of them is with the tokens of its callers and their clock around it. -/

namespace EntityStore
variable {σ : Type}

namespace Token

def lost (token : Token) : Bool := token.cancelled || token.expired

/-- A token is never as good as it was again. -/
structure Lasts (before after : Token) : Prop where
  cancelled : before.cancelled = true → after.cancelled = true
  expired : before.expired = true → after.expired = true

theorem Lasts.refl (token : Token) : Lasts token token := ⟨fun same => same, fun same => same⟩

theorem Lasts.trans {first middle last : Token} (early : Lasts first middle) (late : Lasts middle last) :
    Lasts first last :=
  ⟨fun lost => late.cancelled (early.cancelled lost), fun lost => late.expired (early.expired lost)⟩

theorem Lasts.lost {before after : Token} (lasts : Lasts before after) (lost : before.lost = true) :
    after.lost = true := by
  rw [Token.lost, Bool.or_eq_true] at lost ⊢
  exact lost.imp lasts.cancelled lasts.expired

theorem check_eq (token : Token) :
    token.check = if token.lost then .error (if token.cancelled then .cancelled else .deadlineExceeded) else .ok () := by
  rcases token with ⟨_ | _, _ | _⟩ <;> rfl

theorem check_error {token : Token} {error : StatementError} (checked : token.check = .error error) :
    error = if token.cancelled then .cancelled else .deadlineExceeded := by
  rw [check_eq] at checked
  split at checked
  · exact (Except.error.inj checked).symm
  · cases checked

end Token

namespace Store

/-- The state of a store after exchanges with it. -/
def after (store : Store σ) (exchanges : List Exchange) (state : σ) : σ :=
  exchanges.foldl (fun state exchange => (store.answer exchange.request state).2) state

/-- A look at the token tells what it is, and whatever else the store does, the token lasts. -/
structure Watches (store : Store σ) (token : σ → Token) : Prop where
  looks : ∀ state, (store.answer .check state).1 = (token state).check
  lasts : ∀ request state, (token state).Lasts (token (store.answer request state).2)

theorem Watches.after {store : Store σ} {token : σ → Token} (watches : store.Watches token) (exchanges : List Exchange)
    (state : σ) : (token state).Lasts (token (store.after exchanges state)) := by
  induction exchanges generalizing state with
  | nil => exact .refl _
  | cons exchange rest ih => exact (watches.lasts exchange.request state).trans (ih _)

theorem after_append (store : Store σ) (first rest : List Exchange) (state : σ) :
    store.after (first ++ rest) state = store.after rest (store.after first state) := List.foldl_append

theorem Watches.lasts_prefix {store : Store σ} {token : σ → Token} (watches : store.Watches token)
    {before inner : List Exchange} (early : before <+: inner) (state : σ) :
    (token (store.after before state)).Lasts (token (store.after inner state)) := by
  obtain ⟨more, rfl⟩ := early
  rw [store.after_append]
  exact watches.after more _

end Store

theorem Procedure.run_after (store : Store σ) (procedure : Procedure α) (state : σ) :
    (procedure.run store state).2 = store.after (procedure.exchanges store state) state := by
  induction procedure generalizing state with
  | done result => rfl
  | call request next ih => exact ih _ _

theorem Script.State.lasts_record (state : Script.State) (request : Request) :
    state.token.Lasts (state.record request).token := by
  unfold record
  split
  · exact ⟨fun _ => rfl, fun same => same⟩
  · exact .refl _

theorem Script.State.token_next (state : Script.State) : state.next.2.token = state.token := by
  unfold next
  split <;> rfl

theorem Script.watches : Script.store.Watches Script.State.token where
  looks _ := rfl
  lasts request state := by
    have recorded := state.lasts_record request
    cases request with
    | execute statement parameters | query statement parameters =>
      rw [← Script.State.token_next (state.record _)] at recorded
      exact recorded
    | advance limit =>
      change state.token.Lasts (State.answer (.advance limit) state).2.token
      unfold State.answer
      dsimp only
      split <;> exact recorded
    | begin | scan | close | commit | rollback => exact recorded
    | check => exact .refl _

namespace Engine

theorem Transaction.token_guarded (transaction : Transaction) (step : Connection → Except EngineError α × Connection) :
    (transaction.guarded step).2.token = transaction.token := by
  unfold guarded
  split <;> rfl

theorem Attached.token_answer (request : Request) (attached : Attached) :
    (attached.answer request).2.transaction.token = attached.transaction.token := by
  cases request with
  | begin | execute statement parameters | commit => exact Transaction.token_guarded _ _
  | query statement parameters =>
    have kept : (attached.transaction.query statement parameters).2.token = _ := Transaction.token_guarded _ _
    change (attached.query statement parameters).2.transaction.token = _
    unfold Attached.query
    split <;> rename_i ran <;> rw [ran] at kept <;> exact kept
  | rollback =>
    change attached.transaction.rollback.2.token = _
    unfold Transaction.rollback
    split <;> rfl
  | advance _ | scan | close | check => rfl

theorem Attached.watches : Attached.store.Watches fun attached => attached.transaction.token where
  looks _ := rfl
  lasts request attached := by
    change Token.Lasts _ (attached.answer request).2.transaction.token
    rw [attached.token_answer request]
    exact .refl _

namespace Faults

theorem lasts_cancelling (faults : Faults) (statement : Statement) (step : Except StatementError α × Attached) :
    step.2.transaction.token.Lasts (faults.cancelling statement step).2.transaction.token := by
  rcases step with ⟨_ | _, attached⟩
  · exact .refl _
  · unfold cancelling
    dsimp only
    split
    · exact ⟨fun _ => rfl, fun same => same⟩
    · exact .refl _

/-- Faults may cancel the token, and never make it live. -/
theorem watches (faults : Faults) : faults.store.Watches fun attached => attached.transaction.token where
  looks _ := rfl
  lasts request attached := by
    have answered := Attached.watches.lasts request attached
    change Token.Lasts _ (faults.answer request attached).2.transaction.token
    cases request with
    | execute statement parameters =>
      rw [answer_execute]
      split
      · exact .refl _
      · exact answered.trans (faults.lasts_cancelling statement _)
    | query statement parameters => exact answered.trans (faults.lasts_cancelling statement _)
    | commit =>
      rw [answer_commit]
      split
      · exact .refl _
      · exact answered
    | rollback =>
      rw [answer_rollback]
      exact answered
    | begin | advance _ | scan | close | check => exact answered

end Faults
end Engine

/-- The state of a store, the tokens of its callers and their clock. -/
structure Surrounded (σ : Type) where
  state : σ
  tokens : Tokens
  now : Int

/-- What happens while a store answers: steps on tokens, and time that passes. -/
structure Surroundings (σ : Type) where
  steps : Request → σ → List TokenStep
  elapsed : Request → σ → Nat

/-- Steps one after the other. A step that overflows the clock changes nothing. -/
def Tokens.stepAll (tokens : Tokens) (now : Int) : List TokenStep → Tokens
  | [] => tokens
  | step :: rest =>
      match tokens.step now step with
      | .ok (_, next) => next.stepAll now rest
      | .error _ => tokens.stepAll now rest

/-- A store that does not know of any token, in its surroundings, with one of the tokens for its calls. -/
def Surroundings.around (surroundings : Surroundings σ) (store : Store σ) (handle : Handle) : Store (Surrounded σ) where
  answer
    | .check, surrounded => ((surrounded.tokens.view surrounded.now handle).check, surrounded)
    | request, ⟨state, tokens, now⟩ =>
        let answered := store.answer request state
        (answered.1, ⟨answered.2, tokens.stepAll now (surroundings.steps request state),
          now + surroundings.elapsed request state⟩)

namespace Tokens
variable {tokens : Tokens} {family : Nat}

theorem cancelled_iff {now : Int} {handle : Handle} :
    (tokens.view now handle).cancelled = true ↔ tokens.flags[handle.family]? = some true := by
  unfold view
  cases tokens.flags[handle.family]? <;> simp

theorem flagged_step {now : Int} {step : TokenStep} {reply : TokenReply} {next : Tokens}
    (flagged : tokens.flags[family]? = some true) (stepped : tokens.step now step = .ok (reply, next)) :
    next.flags[family]? = some true := by
  have made (deadline : Option Int) (cancelled : Bool) :
      (tokens.create deadline cancelled).flags[family]? = some true := by
    have inside := (List.getElem?_eq_some_iff.mp flagged).1
    rw [create, List.getElem?_append_left inside, flagged]
  cases step with
  | create deadline cancelled =>
    cases stepped
    exact made deadline cancelled
  | timeout seconds =>
    unfold step at stepped
    dsimp only at stepped
    split at stepped <;> cases stepped
    exact made _ _
  | cancel index =>
    unfold step at stepped
    dsimp only at stepped
    split at stepped <;> cases stepped
    · rename_i handle _
      by_cases same : handle.family = family
      · subst same
        exact List.getElem?_set_self (List.getElem?_eq_some_iff.mp flagged).1
      · exact (List.getElem?_set_ne same).trans flagged
    · exact flagged
  | clone index | isCancelled index | check index =>
    unfold step at stepped
    dsimp only at stepped
    split at stepped <;> cases stepped <;> exact flagged

theorem flagged_stepAll {now : Int} {steps : List TokenStep} (flagged : tokens.flags[family]? = some true) :
    (tokens.stepAll now steps).flags[family]? = some true := by
  induction steps generalizing tokens with
  | nil => exact flagged
  | cons step rest ih =>
    unfold stepAll
    split
    · exact ih (flagged_step flagged ‹_›)
    · exact ih flagged

end Tokens

theorem Surroundings.watches (surroundings : Surroundings σ) (store : Store σ) (handle : Handle) :
    (surroundings.around store handle).Watches fun surrounded => surrounded.tokens.view surrounded.now handle where
  looks _ := rfl
  lasts request surrounded := by
    have later : (surrounded.tokens.view surrounded.now handle).Lasts
        ((surrounded.tokens.stepAll surrounded.now (surroundings.steps request surrounded.state)).view
          (surrounded.now + surroundings.elapsed request surrounded.state) handle) := by
      constructor
      · exact fun cancelled => Tokens.cancelled_iff.mpr (Tokens.flagged_stepAll (Tokens.cancelled_iff.mp cancelled))
      · intro expired
        obtain ⟨deadline, known, passed⟩ := Option.any_eq_true .. |>.mp expired
        have reached : deadline ≤ surrounded.now := of_decide_eq_true passed
        exact (Option.any_eq_true ..).mpr ⟨deadline, known, decide_eq_true (by omega)⟩
    cases request with
    | check => exact .refl _
    | begin | execute _ _ | query _ _ | advance _ | scan | close | commit | rollback => exact later

end EntityStore
