import EntityStore.Proofs.Engine.Within
import EntityStore.Proofs.Protocol
import EntityStore.Scout

/-! Calls are all or nothing. Behind every store around the engine, whatever it refuses and whenever the token is lost,
a call that fails leaves the database it found, a call that succeeds leaves what its statements made of it, and either
way no transaction is left open. -/

namespace EntityStore
open Engine (Connection Effect Wraps Attached)

variable {E σ : Type} {store : Store σ} {connection : σ → Connection}

theorem step_within (wraps : Wraps store connection) (request : Request) (state : σ) (step : request.isStep = true)
    (opened : (connection state).autocommit = false) :
    (connection state).Within (connection (store.answer request state).2) ∧
      ((⟨request, (store.answer request state).1⟩ : Exchange).failure? = none →
        connection (store.answer request state).2 =
          (connection state).replay [⟨request, (store.answer request state).1⟩]) := by
  have effect := wraps request state
  revert effect
  generalize connection (store.answer request state).2 = after
  generalize (store.answer request state).1 = response
  intro effect
  cases request with
  | execute statement parameters =>
    have within := Connection.execute_within (Connection.statementEnd_eq opened) statement parameters
    rcases response with error | _
    · refine ⟨?_, by simp [Exchange.failure?]⟩
      rcases effect with rfl | rfl
      · exact .refl _
      · exact within
    · obtain ⟨count, ran⟩ := effect
      rw [ran] at within
      exact ⟨within, fun _ => (congrArg Prod.snd ran).symm⟩
  | query statement parameters =>
    have within := Connection.query_within (Connection.statementEnd_eq opened) statement parameters
    rcases response with error | limit
    · refine ⟨?_, by simp [Exchange.failure?]⟩
      rcases effect with rfl | rfl
      · exact .refl _
      · exact within
    · obtain ⟨rows, ran⟩ := effect
      rw [ran] at within
      exact ⟨within, fun _ => (congrArg Prod.snd ran).symm⟩
  | advance _ | scan | close =>
    cases effect
    exact ⟨.refl _, fun _ => rfl⟩
  | begin | commit | rollback | check => cases step

theorem steps_within (wraps : Wraps store connection) (procedure : Procedure α) (state : σ)
    (steps : ∀ exchange ∈ procedure.exchanges store state, exchange.request.isStep = true)
    (opened : (connection state).autocommit = false) :
    (connection state).Within (connection (procedure.run store state).2) := by
  induction procedure generalizing state with
  | done result => exact .refl _
  | call request next ih =>
    have first := (step_within wraps request state (steps _ List.mem_cons_self) opened).1
    refine first.trans (ih _ _ ?_ (first.autocommit.trans opened))
    exact fun exchange member => steps exchange (List.mem_cons_of_mem _ member)

theorem steps_replay (wraps : Wraps store connection) (procedure : Procedure α) (state : σ)
    (steps : ∀ exchange ∈ procedure.exchanges store state, exchange.request.isStep = true)
    (succeed : ∀ exchange ∈ procedure.exchanges store state, exchange.failure? = none)
    (opened : (connection state).autocommit = false) :
    connection (procedure.run store state).2 = (connection state).replay (procedure.exchanges store state) := by
  induction procedure generalizing state with
  | done result => rfl
  | call request next ih =>
    have first := step_within wraps request state (steps _ List.mem_cons_self) opened
    have later := ih _ (store.answer request state).2
      (fun exchange member => steps exchange (List.mem_cons_of_mem _ member))
      (fun exchange member => succeed exchange (List.mem_cons_of_mem _ member))
      (first.1.autocommit.trans opened)
    have now := first.2 (succeed _ List.mem_cons_self)
    refine later.trans ?_
    rw [now, ← Connection.replay_append]
    rfl

/-- What a rollback leaves of a transaction: all is as it was before the begin, but for what statements outside any
transaction forget as well. -/
def Undone (before after : Connection) : Prop :=
  ∃ changes, after = { before with deferring := false, pending := 0, changes := changes }

theorem undone_of_within {before left : Connection} (idle : before.autocommit = true)
    (within : Connection.Within before.opened left) : Undone before left.undone := by
  have opened : left.autocommit = false := within.autocommit.trans rfl
  have none : before.saved = none := Option.isNone_iff_eq_none.mp idle
  rw [Connection.undone, opened, within.rollback]
  obtain ⟨database, pending, changes, rfl⟩ := within
  exact ⟨changes, by rw [none]; rfl⟩

/-- A call that fails leaves the connection untouched or rolled back. One that succeeds begins, runs the statements
among its exchanges, and commits them. -/
theorem operation_settles (mapping : Mapping E) (wraps : Wraps store connection) (call : Call E) (state : σ)
    (idle : (connection state).autocommit = true) :
    let after := connection ((mapping.operation call).result store state).2
    match ((mapping.operation call).result store state).1 with
    | .error _ => after = connection state ∨ Undone (connection state) after
    | .ok _ => ∃ opened, (connection state).beginWriting = (.ok (), opened) ∧
        (opened.replay (mapping.exchanges store call state)).commit = (.ok (), after) := by
  obtain ⟨α, body, reply, outcome, follows, transacted, same⟩ := mapping.operation_transacted store call state
  rw [same]
  unfold Mapping.exchanges
  generalize ((mapping.operation call).result store state).2 = ended at transacted
  generalize (mapping.operation call).exchanges store state = exchanges at transacted
  have opens {opened : σ} (begun : store.answer .begin state = (.ok (), opened)) :
      connection opened = (connection state).opened := Connection.beginWriting_ok (wraps.effect begun)
  have body_within {opened : σ} (begun : store.answer .begin state = (.ok (), opened)) :
      Connection.Within (connection state).opened (connection (body.result store opened).2) := by
    have within := steps_within wraps body.run opened (follows.steps store opened) (by rw [opens begun]; rfl)
    rw [opens begun] at within
    exact within
  have rolls {left ended : σ} {answer : Except StatementError Unit}
      (undone : store.answer .rollback left = (answer, ended)) : connection ended = (connection left).undone :=
    wraps.effect undone
  have looks {left checked : σ} {answer : Except StatementError Unit}
      (looked : store.answer .check left = (answer, checked)) : connection checked = connection left :=
    wraps.effect looked
  cases transacted with
  | @refused error opened begun => exact .inl (wraps.effect begun)
  | @failed opened primary left answer ended begun ran undone =>
    right
    have within := body_within begun
    rw [ran] at within
    rw [rolls undone]
    exact undone_of_within idle within
  | @stopped opened value left error checked answer ended begun ran looked undone =>
    right
    have within := body_within begun
    rw [ran, ← looks looked] at within
    rw [rolls undone]
    exact undone_of_within idle within
  | @uncommitted opened value left checked error tried answer ended begun ran looked kept undone =>
    right
    have within := body_within begun
    rw [ran, ← looks looked] at within
    rw [rolls undone, Connection.commit_refused (within.autocommit.trans rfl) (wraps.effect kept)]
    exact undone_of_within idle within
  | @committed opened value left checked ended begun ran looked kept =>
    refine ⟨connection opened, wraps.effect begun, ?_⟩
    have outcome := follows.outcome store opened
    rw [ran] at outcome
    obtain ⟨stage, surveyed, -⟩ := outcome
    have replayed := steps_replay wraps body.run opened (follows.steps store opened)
      (Mapping.survey_succeeds surveyed) (by rw [opens begun]; rfl)
    have done : (connection checked).commit = (.ok (), connection ended) := wraps.effect kept
    rw [looks looked] at done
    change connection (body.result store opened).2 = _ at replayed
    rw [ran] at replayed
    change ((connection opened).replay (body.exchanges store opened ++ _)).commit = _
    rw [Connection.replay_append, ← replayed]
    exact done

theorem perform_idle (mapping : Mapping E) (wraps : Wraps store connection) (call : Call E) (state : σ)
    (idle : (connection state).autocommit = true) :
    (connection (mapping.perform store call state).2.2).autocommit = true := by
  have settled := operation_settles mapping wraps call state idle
  rw [(mapping.perform_eq store call state).2]
  dsimp only at settled
  generalize ((mapping.operation call).result store state).1 = outcome at settled
  cases outcome with
  | error error =>
    rcases settled with unchanged | ⟨changes, undone⟩
    · rw [unchanged, idle]
    · rw [undone]
      exact idle
  | ok reply =>
    obtain ⟨opened, -, committed⟩ := settled
    exact (Connection.commit_ok committed).1

/-- All of a call or nothing of it, with no transaction left open. What a success commits is what its statements, run one
after the other from the begin on, make of the database. -/
structure AllOrNothing (before after : Connection) (exchanges : List Exchange) (outcome : Except CrudError α) :
    Prop where
  closed : after.autocommit = true
  nothing : ∀ error, outcome = .error error → after.database = before.database
  all : ∀ value, outcome = .ok value → (∀ exchange ∈ exchanges, exchange.failure? = none) ∧
    after.committed = ({ before with saved := some before.database }.replay exchanges).database

theorem perform_allOrNothing (mapping : Mapping E) (wraps : Wraps store connection) (call : Call E) (state : σ)
    (idle : (connection state).autocommit = true) :
    AllOrNothing (connection state) (connection (mapping.perform store call state).2.2)
      (mapping.exchanges store call state) (mapping.perform store call state).1 := by
  have closed := perform_idle mapping wraps call state idle
  have settled := operation_settles mapping wraps call state idle
  have shape := mapping.conducted store call state
  obtain ⟨same, left⟩ := mapping.perform_eq store call state
  rw [left] at closed
  rw [same, left]
  change mapping.Conducted call (mapping.exchanges store call state) _ at shape
  generalize ((mapping.operation call).result store state).2 = ended at settled closed
  generalize ((mapping.operation call).result store state).1 = outcome at settled shape
  cases outcome with
  | error error =>
    refine ⟨closed, fun _ _ => ?_, fun _ impossible => by cases impossible⟩
    rcases settled with unchanged | ⟨changes, undone⟩
    · rw [unchanged]
    · rw [undone]
  | ok reply =>
    obtain ⟨opened, begun, committed⟩ := settled
    rw [Connection.beginWriting_ok begun] at committed
    refine ⟨closed, fun _ impossible => by (cases impossible), fun _ _ => ⟨shape.succeeds, ?_⟩⟩
    rw [Connection.committed_eq closed]
    exact (Connection.commit_ok committed).2

/-- A scout whose songs cannot be stored, in a store that does not commit and complains about its rollback. -/
theorem perform_allOrNothing_faulty :
    let faults : Engine.Faults := ⟨some "boy_scout_favorite_songs", some "boy_scout_badges", true, true⟩
    let state := Attached.ofConnection (.ofDatabase .empty) .live
    let call : Call BoyScout := .create { id := "s-1", badges := [.camping], favoriteSongs := ["Taps"] }
    Wraps faults.store Attached.connection ∧ state.connection.autocommit = true ∧
      AllOrNothing state.connection (BoyScout.mapping.perform faults.store call state).2.2.connection
        (BoyScout.mapping.exchanges faults.store call state) (BoyScout.mapping.perform faults.store call state).1 :=
  ⟨Engine.Faults.wraps _, rfl, perform_allOrNothing BoyScout.mapping (Engine.Faults.wraps _) _ _ rfl⟩

end EntityStore
