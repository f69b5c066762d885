import EntityStore.Proofs.Conducted

/-! The protocol that every call keeps towards its store, whatever the store answers: one begin, then steps, then one
commit that succeeds or one rollback. The first failure of a call is the last thing before its rollback. -/

namespace EntityStore
variable {E σ : Type}

namespace Mapping

/-- The exchanges of a call on a store, looks at the token among them. -/
def exchanges (mapping : Mapping E) (store : Store σ) (call : Call E) (state : σ) : List Exchange :=
  (mapping.operation call).exchanges store state

/-- Whether the failure of a call is the given exchange and nothing before it: a request answered with an error, be it a
look at the token, a parent row that is not there, or something that cannot be decoded. -/
def FailsFirst (mapping : Mapping E) (call : Call E) (before : List Exchange) (failing : Exchange) : Prop :=
  ∃ stage error, mapping.survey (mapping.outset call) before = .ok stage ∧
    mapping.observe stage failing = .error error

/-- The rules of a call's exchanges with a store, given its outcome. -/
structure KeepsProtocol (mapping : Mapping E) (call : Call E) (exchanges : List Exchange)
    (outcome : Except CrudError (Reply E)) : Prop where
  begins : ∃ opening rest, exchanges.filter (·.reachesStore) = opening :: rest ∧ opening.request = .begin ∧
    ∀ later ∈ rest, later.request ≠ .begin
  refused : ∀ opening rest, exchanges = opening :: rest → opening.failure? ≠ none →
    rest = [] ∧ ∃ error, outcome = .error error
  ends : ∀ opening rest, exchanges = opening :: rest → opening.failure? = none →
    ∃ last, (exchanges.filter (·.reachesStore)).getLast? = some last ∧
      ((∃ reply, outcome = .ok reply) ↔ last.request = .commit ∧ last.failure? = none) ∧
      ((∃ error, outcome = .error error) ↔ last.request = .rollback)
  /-- A commit has nothing but successes before it, and no other commit before or after it. -/
  commits : ∀ before commit after, exchanges = before ++ commit :: after → commit.request = .commit →
    (∀ earlier ∈ before, earlier.failure? = none) ∧ ∀ other ∈ before ++ after, other.request ≠ .commit
  rollsBack : ∀ before undo after, exchanges = before ++ undo :: after → undo.request = .rollback → after = []
  /-- A call that has begun and fails does so at one exchange, which only the rollback follows. -/
  fails : ∀ opening rest error, exchanges = opening :: rest → opening.failure? = none → outcome = .error error →
    ∃ before failing undo, exchanges = before ++ [failing, undo] ∧ mapping.FailsFirst call before failing
  stops : ∀ before failing undo after, exchanges = before ++ failing :: undo :: after →
    mapping.FailsFirst call before failing → undo.request = .rollback ∧ after = []

variable {mapping : Mapping E} {call : Call E}

theorem split_unique {α : Type} (property : α → Prop) {before rest first last : List α} {found other : α}
    (same : before ++ found :: rest = first ++ other :: last) (noneBefore : ∀ item ∈ before, ¬ property item)
    (noneAfter : ∀ item ∈ rest, ¬ property item) (holds : property other) :
    first = before ∧ other = found ∧ last = rest := by
  rcases List.append_eq_append_iff.mp same with ⟨more, split, tail⟩ | ⟨more, split, tail⟩
  · cases more with
    | nil =>
      obtain ⟨rfl, rfl⟩ := List.cons.inj tail
      exact ⟨by simpa using split, rfl, rfl⟩
    | cons item more =>
      obtain ⟨rfl, rfl⟩ := List.cons.inj tail
      exact absurd holds (noneAfter other (by simp))
  · cases more with
    | nil =>
      obtain ⟨rfl, rfl⟩ := List.cons.inj tail
      exact ⟨by simpa using split.symm, rfl, rfl⟩
    | cons item more =>
      obtain ⟨rfl, rfl⟩ := List.cons.inj tail
      exact absurd holds (noneBefore other (by simp [split]))

theorem survey_begin (stage : Stage E) (rest : List Exchange) :
    mapping.survey stage (⟨.begin, .ok ()⟩ :: rest) = mapping.survey stage rest := by
  have seen : mapping.observe stage ⟨.begin, .ok ()⟩ = .ok stage := by cases stage <;> rfl
  simp only [survey, List.foldlM_cons, seen]
  rfl

theorem survey_succeeds {stage after : Stage E} {exchanges : List Exchange}
    (surveyed : mapping.survey stage exchanges = .ok after) :
    ∀ exchange ∈ exchanges, exchange.failure? = none := by
  induction exchanges generalizing stage with
  | nil => simp
  | cons first rest ih =>
    intro exchange member
    cases seen : mapping.observe stage first with
    | error error =>
      simp only [survey, List.foldlM_cons, seen] at surveyed
      cases surveyed
    | ok next =>
      simp only [survey, List.foldlM_cons, seen] at surveyed
      rcases List.mem_cons.mp member with rfl | member
      · cases failed : exchange.failure? with
        | none => rfl
        | some error =>
          rw [observe_failure failed] at seen
          cases seen
      · exact ih surveyed exchange member

theorem FailsFirst.not_surveyed {before : List Exchange} {failing : Exchange}
    (fails : mapping.FailsFirst call before failing) (rest : List Exchange) (after : Stage E) :
    mapping.survey (mapping.outset call) (before ++ failing :: rest) ≠ .ok after := by
  obtain ⟨stage, error, surveyed, failed⟩ := fails
  intro passed
  rw [survey_append, surveyed] at passed
  simp only [survey, bind, Except.bind, List.foldlM_cons, failed] at passed
  cases passed

theorem FailsFirst.unique {before rest first last : List Exchange} {failing other : Exchange}
    (fails : mapping.FailsFirst call before failing) (otherwise : mapping.FailsFirst call first other)
    (same : before ++ failing :: rest = first ++ other :: last) : last = rest := by
  rcases List.append_eq_append_iff.mp same with ⟨more, split, tail⟩ | ⟨more, split, tail⟩
  · cases more with
    | nil => exact (List.cons.inj tail).2.symm
    | cons item more =>
      obtain ⟨rfl, rfl⟩ := List.cons.inj tail
      obtain ⟨stage, -, surveyed, -⟩ := otherwise
      rw [split] at surveyed
      exact absurd surveyed (fails.not_surveyed more stage)
  · cases more with
    | nil => exact (List.cons.inj tail).2
    | cons item more =>
      obtain ⟨rfl, rfl⟩ := List.cons.inj tail
      obtain ⟨stage, -, surveyed, -⟩ := fails
      rw [split] at surveyed
      exact absurd surveyed (otherwise.not_surveyed more stage)

private theorem inner_ne {request : Request} (inner : request.isInner = true) :
    request ≠ .begin ∧ request ≠ .commit ∧ request ≠ .rollback := by
  refine ⟨?_, ?_, ?_⟩
  all_goals
    rintro rfl
    cases inner

private theorem Conducted.begins {exchanges : List Exchange} {outcome : Except CrudError (Reply E)}
    (conducted : mapping.Conducted call exchanges outcome) :
    ∃ opening rest, exchanges = opening :: rest ∧ opening.request = .begin ∧ ∀ later ∈ rest, later.request ≠ .begin := by
  cases conducted with
  | refused error => exact ⟨_, [], rfl, rfl, by simp⟩
  | @undone before stage failing primary answer inner other surveyed failed =>
    refine ⟨_, _, rfl, rfl, ?_⟩
    intro later member
    simp only [List.mem_append, List.mem_cons, List.not_mem_nil, or_false] at member
    rcases member with member | rfl | rfl
    · exact (inner_ne (inner later member)).1
    · rcases other with other | other
      · exact (inner_ne other).1
      · simp [other]
    · simp
  | @committed before stage reply inner surveyed told =>
    refine ⟨_, _, rfl, rfl, ?_⟩
    intro later member
    simp only [List.mem_append, List.mem_singleton] at member
    rcases member with member | rfl
    · exact (inner_ne (inner later member)).1
    · simp

private theorem getLast?_reaching {exchanges : List Exchange} {last : Exchange} (reaches : last.reachesStore = true) :
    ((exchanges ++ [last]).filter (·.reachesStore)).getLast? = some last := by
  rw [List.filter_append, List.filter_cons_of_pos reaches, List.filter_nil, List.getLast?_concat]

private theorem Conducted.ends {opening : Exchange} {rest : List Exchange} {outcome : Except CrudError (Reply E)}
    (conducted : mapping.Conducted call (opening :: rest) outcome) (begun : opening.failure? = none) :
    ∃ last, ((opening :: rest).filter (·.reachesStore)).getLast? = some last ∧
      ((∃ reply, outcome = .ok reply) ↔ last.request = .commit ∧ last.failure? = none) ∧
      ((∃ error, outcome = .error error) ↔ last.request = .rollback) := by
  cases conducted with
  | refused error => cases begun
  | @undone before stage failing primary answer inner other surveyed failed =>
    refine ⟨⟨.rollback, answer⟩, ?_, by simp, by simp⟩
    have whole : ⟨.begin, .ok ()⟩ :: (before ++ [failing, ⟨.rollback, answer⟩]) =
        (⟨.begin, .ok ()⟩ :: before ++ [failing]) ++ [(⟨.rollback, answer⟩ : Exchange)] := by simp
    rw [whole]
    exact getLast?_reaching rfl
  | @committed before stage reply inner surveyed told =>
    refine ⟨⟨.commit, .ok ()⟩, ?_, by simp [Exchange.failure?], by simp⟩
    rw [← List.cons_append]
    exact getLast?_reaching rfl

private theorem opening_free {first : List Exchange} (inner : ∀ exchange ∈ first, exchange.request.isInner = true) :
    ∀ exchange ∈ ⟨.begin, .ok ()⟩ :: first, exchange.request ≠ .commit ∧ exchange.request ≠ .rollback := by
  intro exchange member
  rcases List.mem_cons.mp member with rfl | member
  · simp
  · exact (inner_ne (inner exchange member)).2

private theorem Conducted.commits {exchanges : List Exchange} {outcome : Except CrudError (Reply E)}
    (conducted : mapping.Conducted call exchanges outcome) {before after : List Exchange} {commit : Exchange}
    (same : exchanges = before ++ commit :: after) (kind : commit.request = .commit) :
    (∀ earlier ∈ before, earlier.failure? = none) ∧ ∀ other ∈ before ++ after, other.request ≠ .commit := by
  cases conducted with
  | refused error =>
    have member : commit ∈ [(⟨.begin, .error error⟩ : Exchange)] := by simp [same]
    rw [List.mem_singleton.mp member] at kind
    cases kind
  | @undone first stage failing primary answer inner other surveyed failed =>
    have free := opening_free inner
    have split : (⟨.begin, .ok ()⟩ :: first) ++ failing :: [⟨.rollback, answer⟩] = before ++ commit :: after := same
    have late : ∀ exchange ∈ [(⟨.rollback, answer⟩ : Exchange)], ¬ exchange.request = .commit := by simp
    rcases other with other | other
    · have member : commit ∈ (⟨.begin, .ok ()⟩ :: first) ++ [failing, ⟨.rollback, answer⟩] := by rw [split]; simp
      rcases List.mem_append.mp member with member | member
      · exact absurd kind (free commit member).1
      · rcases List.mem_cons.mp member with rfl | member
        · exact absurd kind (inner_ne other).2.1
        · exact absurd kind (late commit member)
    · obtain ⟨rfl, rfl, rfl⟩ :=
        split_unique (·.request = .commit) split (fun exchange member => (free exchange member).1) late kind
      refine ⟨survey_succeeds ((survey_begin _ _).trans surveyed), ?_⟩
      intro exchange member
      rcases List.mem_append.mp member with member | member
      · exact (free exchange member).1
      · exact late exchange member
  | @committed first stage reply inner surveyed told =>
    have free := opening_free inner
    have split : (⟨.begin, .ok ()⟩ :: first) ++ ⟨.commit, .ok ()⟩ :: [] = before ++ commit :: after := same
    obtain ⟨rfl, rfl, rfl⟩ := split_unique (·.request = .commit) split (fun exchange member => (free exchange member).1)
      (by simp) kind
    refine ⟨survey_succeeds ((survey_begin _ _).trans surveyed), ?_⟩
    rw [List.append_nil]
    exact fun exchange member => (free exchange member).1

private theorem Conducted.rollsBack {exchanges : List Exchange} {outcome : Except CrudError (Reply E)}
    (conducted : mapping.Conducted call exchanges outcome) {before after : List Exchange} {undo : Exchange}
    (same : exchanges = before ++ undo :: after) (kind : undo.request = .rollback) : after = [] := by
  cases conducted with
  | refused error =>
    have member : undo ∈ [(⟨.begin, .error error⟩ : Exchange)] := by simp [same]
    rw [List.mem_singleton.mp member] at kind
    cases kind
  | @undone first stage failing primary answer inner other surveyed failed =>
    have split : ((⟨.begin, .ok ()⟩ :: first) ++ [failing]) ++ ⟨.rollback, answer⟩ :: [] = before ++ undo :: after := by
      rw [← same]; simp
    refine (split_unique (·.request = .rollback) split ?_ (by simp) kind).2.2
    intro exchange member
    rcases List.mem_append.mp member with member | member
    · exact (opening_free inner exchange member).2
    · rw [List.mem_singleton.mp member]
      rcases other with other | other
      · exact (inner_ne other).2.2
      · simp [other]
  | @committed first stage reply inner surveyed told =>
    have member : undo ∈ (⟨.begin, .ok ()⟩ :: first) ++ [(⟨.commit, .ok ()⟩ : Exchange)] := by
      rw [List.cons_append, same]; simp
    rcases List.mem_append.mp member with member | member
    · exact absurd kind (opening_free inner undo member).2
    · rw [List.mem_singleton.mp member] at kind
      cases kind

theorem Conducted.surveyed {exchanges : List Exchange} {reply : Reply E}
    (conducted : mapping.Conducted call exchanges (.ok reply)) :
    ∃ stage, mapping.survey (mapping.outset call) exchanges = .ok stage := by
  cases conducted with
  | @committed before stage _ inner surveyed told =>
    have seen : mapping.observe stage ⟨.commit, .ok ()⟩ = .ok stage := by cases stage <;> rfl
    refine ⟨stage, ?_⟩
    rw [survey_begin, survey_append, surveyed]
    exact congrArg (· >>= pure) seen

private theorem Conducted.stops {exchanges : List Exchange} {outcome : Except CrudError (Reply E)}
    (conducted : mapping.Conducted call exchanges outcome) {before after : List Exchange} {failing undo : Exchange}
    (same : exchanges = before ++ failing :: undo :: after) (fails : mapping.FailsFirst call before failing) :
    undo.request = .rollback ∧ after = [] := by
  cases conducted with
  | refused error =>
    have count := congrArg List.length same
    simp only [List.length_append, List.length_cons, List.length_nil] at count
    omega
  | @undone first stage found primary answer inner other surveyed failed =>
    have split : (⟨.begin, .ok ()⟩ :: first) ++ found :: [⟨.rollback, answer⟩] = before ++ failing :: undo :: after := same
    have known : mapping.FailsFirst call (⟨.begin, .ok ()⟩ :: first) found :=
      ⟨stage, primary, (survey_begin _ _).trans surveyed, failed⟩
    obtain ⟨rfl, rfl⟩ := List.cons.inj (known.unique fails split)
    exact ⟨rfl, rfl⟩
  | @committed first stage reply inner surveyed told =>
    obtain ⟨after, passed⟩ := (Conducted.committed inner surveyed told).surveyed
    rw [same] at passed
    exact absurd passed (fails.not_surveyed _ after)

theorem perform_eq (mapping : Mapping E) (store : Store σ) (call : Call E) (state : σ) :
    (mapping.perform store call state).1 = ((mapping.operation call).result store state).1 ∧
      (mapping.perform store call state).2.2 = ((mapping.operation call).result store state).2 := by
  unfold perform Operation.result
  rcases Procedure.run store (mapping.operation call).run state with ⟨_ | _, _⟩ <;> exact ⟨rfl, rfl⟩

theorem perform_events (mapping : Mapping E) (store : Store σ) (call : Call E) (state : σ) :
    (mapping.perform store call state).2.1 =
      match ((mapping.operation call).result store state).1 with
      | .ok _ => [mapping.event call]
      | .error _ => [] := by
  unfold perform Operation.result
  rcases Procedure.run store (mapping.operation call).run state with ⟨_ | _, _⟩ <;> rfl

theorem Conducted.succeeds {exchanges : List Exchange} {reply : Reply E}
    (conducted : mapping.Conducted call exchanges (.ok reply)) : ∀ exchange ∈ exchanges, exchange.failure? = none := by
  obtain ⟨stage, surveyed⟩ := conducted.surveyed
  exact survey_succeeds surveyed

/-- Whatever the store answers and whenever the token is cancelled, a call keeps the protocol. -/
theorem perform_keepsProtocol (mapping : Mapping E) (store : Store σ) (call : Call E) (state : σ) :
    mapping.KeepsProtocol call (mapping.exchanges store call state) (mapping.perform store call state).1 := by
  rw [(mapping.perform_eq store call state).1]
  have shape := conducted mapping store call state
  unfold exchanges
  generalize (mapping.operation call).exchanges store state = exchanges at shape
  generalize ((mapping.operation call).result store state).1 = outcome at shape
  refine ⟨?_, ?_, ?_, fun _ _ _ same kind => shape.commits same kind, fun _ _ _ same kind => shape.rollsBack same kind,
    ?_, fun _ _ _ _ same fails => shape.stops same fails⟩
  · obtain ⟨opening, rest, rfl, begins, others⟩ := shape.begins
    have reaches : opening.reachesStore = true := by simp [Exchange.reachesStore, begins]
    refine ⟨opening, rest.filter (·.reachesStore), List.filter_cons_of_pos reaches, begins, ?_⟩
    exact fun later member => others later (List.mem_filter.mp member).1
  · rintro opening rest rfl failed
    cases shape with
    | refused error => exact ⟨rfl, _, rfl⟩
    | undone => exact absurd rfl failed
    | committed => exact absurd rfl failed
  · rintro opening rest rfl begun
    exact shape.ends begun
  · rintro opening rest error rfl begun rfl
    cases shape with
    | refused error => cases begun
    | @undone before stage failing primary answer inner other surveyed failed =>
      exact ⟨⟨.begin, .ok ()⟩ :: before, failing, ⟨.rollback, answer⟩, rfl, stage, primary,
        (survey_begin _ _).trans surveyed, failed⟩

end Mapping
end EntityStore
