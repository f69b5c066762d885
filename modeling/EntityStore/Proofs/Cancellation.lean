import EntityStore.Proofs.Protocol
import EntityStore.Proofs.Watching
import EntityStore.Scout

/-! What becomes of a call whose token is lost. The call looks at its token once, between its body and its commit, and a
token that was lost at any time before that is still lost then. -/

namespace EntityStore
variable {E σ : Type}

theorem Operation.after_body {store : Store σ} {body : Operation α} {state opened left : σ} {outcome : Except CrudError α}
    (begun : store.answer .begin state = (.ok (), opened)) (ran : body.result store opened = (outcome, left)) :
    store.after (⟨.begin, .ok ()⟩ :: body.exchanges store opened) state = left := by
  have reached := Procedure.run_after store body.run opened
  have ended : (body.run.run store opened).2 = left := congrArg Prod.snd ran
  rw [Store.after, List.foldl_cons, begun]
  exact reached.symm.trans ended

namespace Mapping
variable {mapping : Mapping E} {call : Call E}

/-- Whether the token is lost after the first few exchanges of a call, none of them its look at the token or its
commit. What the token is at a moment is given by the exchanges until then. -/
structure LosesToken (token : List Exchange → Token) (exchanges before : List Exchange) : Prop where
  early : before <+: exchanges
  unlooked : ∀ exchange ∈ before, exchange.request ≠ .check ∧ exchange.request ≠ .commit
  lost : (token before).lost = true

/-- What the token of a call has to do with its exchanges and its outcome. -/
structure HeedsToken (mapping : Mapping E) (call : Call E) (token : List Exchange → Token) (exchanges : List Exchange)
    (outcome : Except CrudError (Reply E)) : Prop where
  stops : ∀ before, LosesToken token exchanges before →
    (∀ exchange ∈ exchanges, exchange.request ≠ .commit) ∧ ∃ error, outcome = .error error
  /-- Where nothing else fails first, the token is blamed, and its flag before its deadline. -/
  blames : ∀ before, LosesToken token exchanges before →
    (∀ first failing rest, exchanges = first ++ failing :: rest → mapping.FailsFirst call first failing →
      failing.request = .check) →
    ∃ inner cause answer, exchanges = inner ++ [⟨.check, .error cause⟩, ⟨.rollback, answer⟩] ∧
      outcome = .error (Operation.afterRollback (.statement cause) answer) ∧
      (cause = if (token inner).cancelled then .cancelled else .deadlineExceeded) ∧
      ((token before).cancelled = true → cause = .cancelled)
  decides : ∀ before commit rest, exchanges = before ++ commit :: rest → commit.request = .commit →
    (∀ later ∈ rest, later.request ≠ .check) ∧ ((∃ reply, outcome = .ok reply) ↔ commit.failure? = none)

theorem LosesToken.before_look {token : List Exchange → Token} {inner rest before : List Exchange}
    {answer : Except StatementError Unit} (loses : LosesToken token (inner ++ ⟨.check, answer⟩ :: rest) before) :
    before <+: inner := by
  rcases List.prefix_or_prefix_of_prefix loses.early (List.prefix_append inner _) with within | ⟨more, rfl⟩
  · exact within
  cases more with
  | nil => simp
  | cons first more =>
    have within := (List.prefix_append_right_inj inner).mp loses.early
    have next : first = ⟨.check, answer⟩ := (List.cons_prefix_cons.mp within).1
    exact absurd (congrArg Exchange.request next) (loses.unlooked first (by simp)).1

section Transacted
variable {α : Type} {store : Store σ} {token : σ → Token} {body : Operation α} {state ended : σ}
  {outcome : Except CrudError α} {exchanges : List Exchange}

theorem Follows.opening {good : α → Stage E → Prop} {stage : Stage E} (follows : mapping.Follows good body.run stage)
    (store : Store σ) (opened : σ) : ∀ exchange ∈ ⟨.begin, .ok ()⟩ :: body.exchanges store opened,
      exchange.request ≠ .check ∧ exchange.request ≠ .commit := by
  intro exchange member
  rcases List.mem_cons.mp member with rfl | member
  · simp
  · have step := follows.steps store opened exchange member
    constructor <;>
      intro same <;> rw [same] at step <;> cases step

theorem LosesToken.still {opened left : σ} {before rest : List Exchange} {answer : Except StatementError Unit}
    {ran : Except CrudError α} (watches : store.Watches token) (begun : store.answer .begin state = (.ok (), opened))
    (result : body.result store opened = (ran, left))
    (loses : LosesToken (fun past => token (store.after past state))
      (⟨.begin, .ok ()⟩ :: body.exchanges store opened ++ ⟨.check, answer⟩ :: rest) before) :
    (token (store.after before state)).Lasts (token left) := by
  have lasts := watches.lasts_prefix loses.before_look state
  rwa [Operation.after_body begun result] at lasts

theorem Follows.looked {good : α → Stage E → Prop} {stage : Stage E} (follows : mapping.Follows good body.run stage)
    (transacted : Operation.Transacted store body state outcome ended exchanges) :
    (∀ exchange ∈ exchanges, exchange.request ≠ .commit) ∧ (∃ error, outcome = .error error) ∨
      ∃ opened value left checked answer rest, store.answer .begin state = (.ok (), opened) ∧
        body.result store opened = (.ok value, left) ∧ store.answer .check left = (.ok (), checked) ∧
        exchanges = (⟨.begin, .ok ()⟩ :: body.exchanges store opened ++ [⟨.check, .ok ()⟩]) ++ ⟨.commit, answer⟩ :: rest ∧
        (∀ later ∈ rest, later.request = .rollback) ∧ ((∃ value, outcome = .ok value) ↔ answer = .ok ()) := by
  have opening := follows.opening store
  cases transacted with
  | refused begun => exact .inl ⟨by simp, _, rfl⟩
  | @failed opened primary left answer _ begun ran undone =>
    refine .inl ⟨fun exchange member => ?_, _, rfl⟩
    rw [← List.cons_append] at member
    rcases List.mem_append.mp member with member | member
    · exact (opening opened exchange member).2
    · simp [List.mem_singleton.mp member]
  | @stopped opened value left error checked answer _ begun ran looked undone =>
    refine .inl ⟨fun exchange member => ?_, _, rfl⟩
    rw [← List.cons_append] at member
    rcases List.mem_append.mp member with member | member
    · exact (opening opened exchange member).2
    · simp only [List.mem_cons, List.not_mem_nil, or_false] at member
      rcases member with rfl | rfl <;> simp
  | @uncommitted opened value left checked error tried answer _ begun ran looked kept undone =>
    refine .inr ⟨opened, value, left, checked, .error error, [⟨.rollback, answer⟩], begun, ran, looked, by simp, by simp, ?_⟩
    simp
  | @committed opened value left checked _ begun ran looked kept =>
    exact .inr ⟨opened, value, left, checked, .ok (), [], begun, ran, looked, by simp, by simp, by simp⟩

theorem stops_transacted (watches : store.Watches token) {good : α → Stage E → Prop} {stage : Stage E}
    (follows : mapping.Follows good body.run stage)
    (transacted : Operation.Transacted store body state outcome ended exchanges) {before : List Exchange}
    (loses : LosesToken (fun past => token (store.after past state)) exchanges before) :
    (∀ exchange ∈ exchanges, exchange.request ≠ .commit) ∧ ∃ error, outcome = .error error := by
  rcases follows.looked transacted with
    stopped | ⟨opened, value, left, checked, answer, rest, begun, ran, looked, rfl, -, -⟩
  · exact stopped
  · rw [List.append_assoc, List.singleton_append] at loses
    have lost : (token left).lost = true := (loses.still watches begun ran).lost loses.lost
    have live := watches.looks left
    rw [looked, Token.check_eq, if_pos lost] at live
    cases live

theorem blames_transacted (watches : store.Watches token) {good : α → Stage E → Prop}
    (follows : mapping.Follows good body.run (mapping.outset call))
    (transacted : Operation.Transacted store body state outcome ended exchanges) {before : List Exchange}
    (loses : LosesToken (fun past => token (store.after past state)) exchanges before)
    (only : ∀ first failing rest, exchanges = first ++ failing :: rest → mapping.FailsFirst call first failing →
      failing.request = .check) :
    ∃ inner cause answer, exchanges = inner ++ [⟨.check, .error cause⟩, ⟨.rollback, answer⟩] ∧
      outcome = .error (Operation.afterRollback (.statement cause) answer) ∧
      (cause = if (token (store.after inner state)).cancelled then .cancelled else .deadlineExceeded) ∧
      ((token (store.after before state)).cancelled = true → cause = .cancelled) := by
  have stopped := stops_transacted watches follows transacted loses
  cases transacted with
  | @refused error opened begun =>
    have fails : mapping.FailsFirst call [] ⟨.begin, .error error⟩ := ⟨_, _, rfl, observe_failure rfl⟩
    cases only [] _ [] rfl fails
  | @failed opened primary left answer _ begun ran undone =>
    have ended := follows.outcome store opened
    simp only [ran] at ended
    obtain ⟨earlier, last, stage, same, surveyed, failed⟩ := ended
    have step := follows.steps store opened last (by simp [same])
    have fails : mapping.FailsFirst call (⟨.begin, .ok ()⟩ :: earlier) last :=
      ⟨stage, primary, (survey_begin _ _).trans surveyed, failed⟩
    rw [only _ _ [⟨.rollback, answer⟩] (by simp [same]) fails] at step
    cases step
  | @stopped opened value left error checked answer _ begun ran looked undone =>
    have cause : (token left).check = .error error := by rw [← watches.looks left, looked]
    refine ⟨⟨.begin, .ok ()⟩ :: body.exchanges store opened, error, answer, rfl, rfl, ?_, fun cancelled => ?_⟩
    · rw [Operation.after_body begun ran]
      exact Token.check_error cause
    · rw [Token.check_error cause, if_pos ((loses.still watches begun ran).cancelled cancelled)]
  | @uncommitted opened value left checked error tried answer _ begun ran looked kept undone =>
    exact absurd rfl (stopped.1 ⟨.commit, .error error⟩ (by simp))
  | @committed opened value left checked _ begun ran looked kept =>
    exact absurd rfl (stopped.1 ⟨.commit, .ok ()⟩ (by simp))

theorem decides_transacted {good : α → Stage E → Prop} {stage : Stage E}
    (follows : mapping.Follows good body.run stage)
    (transacted : Operation.Transacted store body state outcome ended exchanges) {before rest : List Exchange}
    {commit : Exchange} (same : exchanges = before ++ commit :: rest) (kind : commit.request = .commit) :
    (∀ later ∈ rest, later.request ≠ .check) ∧ ((∃ value, outcome = .ok value) ↔ commit.failure? = none) := by
  rcases follows.looked transacted with
    ⟨none, -⟩ | ⟨opened, value, left, checked, answer, last, -, -, -, split, undone, decided⟩
  · exact absurd kind (none commit (by simp [same]))
  have early : ∀ exchange ∈ ⟨.begin, .ok ()⟩ :: body.exchanges store opened ++ [⟨.check, .ok ()⟩],
      ¬ exchange.request = .commit := by
    intro exchange member
    rcases List.mem_append.mp member with member | member
    · exact (follows.opening store opened exchange member).2
    · simp [List.mem_singleton.mp member]
  have late : ∀ exchange ∈ last, ¬ exchange.request = .commit := fun exchange member => by simp [undone exchange member]
  obtain ⟨rfl, rfl, rfl⟩ := split_unique (·.request = .commit) (split.symm.trans same) early late kind
  refine ⟨fun later member => by simp [undone later member], decided.trans ?_⟩
  rcases answer with error | _ <;> simp [Exchange.failure?]

end Transacted

/-- Over every store that watches a token, whenever the token is lost, a call that has not reached its commit does not
commit. -/
theorem perform_heedsToken {store : Store σ} {token : σ → Token} (watches : store.Watches token) (mapping : Mapping E)
    (call : Call E) (state : σ) :
    mapping.HeedsToken call (fun past => token (store.after past state)) (mapping.exchanges store call state)
      (mapping.perform store call state).1 := by
  obtain ⟨α, body, reply, outcome, follows, transacted, same⟩ := mapping.operation_transacted store call state
  rw [(mapping.perform_eq store call state).1, same]
  unfold exchanges
  refine ⟨fun before loses => ?_, fun before loses only => ?_, fun before commit rest split kind => ?_⟩
  · obtain ⟨none, error, rfl⟩ := stops_transacted watches follows transacted loses
    exact ⟨none, error, rfl⟩
  · obtain ⟨inner, cause, answer, split, rfl, blamed⟩ := blames_transacted watches follows transacted loses only
    exact ⟨inner, cause, answer, split, rfl, blamed⟩
  · obtain ⟨unlooked, decided⟩ := decides_transacted follows transacted split kind
    refine ⟨unlooked, Iff.trans ?_ decided⟩
    cases outcome <;> simp [Except.map]

/-- A token that is cancelled while the songs of a scout are deleted, in a store that cares for no token and spoils the
rollback. -/
theorem perform_heedsToken_late :
    let script : Script := ⟨none, none, some (.backend "lost"), [], some 2⟩
    let state := script.start .live
    let token := fun past => (Script.store.after past state).token
    let call : Call BoyScout := .delete "s-1"
    let exchanges := BoyScout.mapping.exchanges Script.store call state
    let outcome := (BoyScout.mapping.perform Script.store call state).1
    Script.store.Watches Script.State.token ∧ LosesToken token exchanges (exchanges.take 3) ∧
      outcome = .error (.composite (.statement .cancelled) [.statement (.backend "lost")]) ∧
      BoyScout.mapping.HeedsToken call token exchanges outcome := by
  refine ⟨Script.watches, ⟨List.take_prefix 3 _, by decide, rfl⟩, rfl, ?_⟩
  exact perform_heedsToken Script.watches BoyScout.mapping (.delete "s-1") _

end Mapping
end EntityStore
