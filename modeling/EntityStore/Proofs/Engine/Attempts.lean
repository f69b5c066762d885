import EntityStore.Migration
import EntityStore.Proofs.Engine.Applying

/-! Transactions from their begin to their end, whatever is tried on them in between. A commit may be refused any number
of times. Until one succeeds the transaction can still be undone as a whole, and what fails leaves no trace in it. A
handle whose commit has succeeded still passes statements on, and they last at once. -/

namespace EntityStore.Engine.Transaction

/-- What can be tried on a transaction, and the passing of its deadline. A query fetches its rows under the token as it
is by then. Statements are those of `Statement`. A text of another form, such as one with RETURNING, which can fail after
it has changed rows, is outside what is shown of attempts. -/
inductive Attempt where
  | execute (statement : Statement) (parameters : List Value)
  | query (statement : Statement) (parameters : List Value) (fetching : Token)
  | deferForeignKeys
  | cancel
  | expire
  | commit

def fetch (fetching : Token) : List Row → Except StatementError Unit
  | [] => .ok ()
  | _ :: _ => fetching.check

def expire (transaction : Transaction) : Transaction :=
  { transaction with token := { transaction.token with expired := true } }

def attempt (transaction : Transaction) : Attempt → Except StatementError Unit × Transaction
  | .execute statement parameters =>
      let (outcome, next) := transaction.execute statement parameters
      (outcome.map fun _ => (), next)
  | .query statement parameters fetching =>
      let (outcome, next) := transaction.query statement parameters
      (outcome >>= fetch fetching, next)
  | .deferForeignKeys => (.ok (), transaction.deferForeignKeys)
  | .cancel => (.ok (), transaction.cancel)
  | .expire => (.ok (), transaction.expire)
  | .commit => transaction.commit

structure Trial where
  before : Transaction
  attempt : Attempt
  outcome : Except StatementError Unit
  after : Transaction

namespace Trial

def commits (trial : Trial) : Bool :=
  match trial.attempt, trial.outcome with
  | .commit, .ok () => true
  | _, _ => false

def makes (trial : Trial) (database : Database) : Database :=
  match trial.attempt, trial.outcome with
  | .execute statement parameters, .ok () | .query statement parameters _, .ok () => database.after statement parameters
  | _, _ => database

end Trial

def trial (transaction : Transaction) (attempt : Attempt) : Trial :=
  ⟨transaction, attempt, (transaction.attempt attempt).1, (transaction.attempt attempt).2⟩

/-- The trials of a transaction, and the transaction that they left. -/
structure Course where
  trials : List Trial
  left : Transaction

namespace Course

def committed (course : Course) : Bool := course.trials.any (·.commits)

def makes (course : Course) (database : Database) : Database :=
  course.trials.foldl (fun database trial => trial.makes database) database

end Course

/-- Tries one thing after the other, up to the first commit that succeeds. -/
def course (transaction : Transaction) : List Attempt → Course
  | [] => ⟨[], transaction⟩
  | attempt :: rest =>
      let trial := transaction.trial attempt
      if trial.commits then ⟨[trial], trial.after⟩
      else
        let later := trial.after.course rest
        ⟨trial :: later.trials, later.left⟩

inductive Ending where
  | rollback
  | drop

def finish (transaction : Transaction) : Ending → Except StatementError Unit × Connection
  | .rollback => (transaction.rollback.1, transaction.rollback.2.connection)
  | .drop => (.ok (), transaction.drop)

/-- What one trial can have done. Only a commit ends the transaction, which then was open, and only a statement that
succeeded changes the database. -/
structure Trial.Sound (trial : Trial) : Prop where
  database : trial.after.connection.database = trial.makes trial.before.connection.database
  saved : trial.after.connection.saved = if trial.commits then none else trial.before.connection.saved
  opened : trial.commits = true → trial.before.connection.autocommit = false
  failed : ∀ error, trial.outcome = .error error →
    trial.before.connection.Failed trial.after.connection ∧ trial.after.token = trial.before.token

theorem commit_cases {connection next : Connection} {outcome : Except EngineError Unit}
    (ran : connection.commit = (outcome, next)) :
    match outcome with
    | .ok () => connection.autocommit = false ∧ next.database = connection.database ∧ next.saved = none
    | .error _ => connection.Failed next := by
  unfold Connection.commit at ran
  split at ran
  · cases ran
    exact ⟨connection.statementEnd.changes, .inr rfl⟩
  · rename_i opened
    split at ran
    · cases ran
      exact ⟨connection.changes, .inl rfl⟩
    · cases ran
      exact ⟨Bool.not_eq_true _ ▸ opened, rfl, rfl⟩

theorem Trial.Sound.of_error {trial : Trial} {error : StatementError} (refused : trial.outcome = .error error)
    (failed : trial.before.connection.Failed trial.after.connection) (token : trial.after.token = trial.before.token) :
    trial.Sound := by
  have unmade (database : Database) : trial.makes database = database := by
    unfold makes
    rw [refused]
    split <;> simp_all
  have uncommitted : trial.commits = false := by
    unfold commits
    rw [refused]
    split <;> simp_all
  refine ⟨?_, ?_, ?_, fun _ _ => ⟨failed, token⟩⟩
  · rw [unmade, failed.database]
  · rw [uncommitted, failed.saved]
    rfl
  · rw [uncommitted]
    intro impossible
    cases impossible

theorem sound_of_guarded {transaction : Transaction} {attempt : Attempt}
    {step : Connection → Except EngineError α × Connection} {hear : α → Except StatementError Unit}
    (tried : transaction.attempt attempt =
      ((transaction.guarded step).1 >>= hear, (transaction.guarded step).2))
    (ran : ∀ answer next, step transaction.connection = (answer, next) →
      Trial.Sound ⟨transaction, attempt, answer.mapError .engine >>= hear, { transaction with connection := next }⟩) :
    (transaction.trial attempt).Sound := by
  unfold trial
  rw [tried]
  unfold guarded
  split
  · exact .of_error rfl ⟨transaction.connection.changes, .inl rfl⟩ rfl
  · exact ran _ _ rfl

theorem execute_sound (transaction : Transaction) (statement : Statement) (parameters : List Value) :
    (transaction.trial (.execute statement parameters)).Sound := by
  have tried : transaction.attempt (.execute statement parameters) =
      ((transaction.execute statement parameters).1 >>= fun _ => .ok (),
        (transaction.execute statement parameters).2) := by
    rcases ran : transaction.execute statement parameters with ⟨_ | _, next⟩ <;> simp only [attempt, ran] <;> rfl
  refine sound_of_guarded tried fun answer next ran => ?_
  have cases := Connection.execute_cases ran
  cases answer with
  | error error => exact .of_error rfl cases rfl
  | ok count =>
    exact ⟨cases.1, cases.2, nofun, nofun⟩

theorem query_sound (transaction : Transaction) (statement : Statement) (parameters : List Value) (fetching : Token) :
    (transaction.trial (.query statement parameters fetching)).Sound := by
  have tried : transaction.attempt (.query statement parameters fetching) =
      ((transaction.query statement parameters).1 >>= fetch fetching,
        (transaction.query statement parameters).2) := rfl
  refine sound_of_guarded tried fun answer next ran => ?_
  have cases := Connection.query_cases ran
  cases answer with
  | error error => exact .of_error rfl cases rfl
  | ok rows =>
    obtain ⟨⟨database, saved⟩, unchanged⟩ := cases
    change Trial.Sound ⟨_, _, fetch fetching rows, _⟩
    cases fetched : fetch fetching rows with
    | error error =>
      have some : rows ≠ [] := by
        rintro rfl
        cases fetched
      exact .of_error rfl ⟨transaction.connection.statementEnd.changes, .inr (unchanged some)⟩ rfl
    | ok _ =>
      exact ⟨database, saved, nofun, nofun⟩

theorem commit_sound (transaction : Transaction) : (transaction.trial .commit).Sound := by
  have tried : transaction.attempt .commit = (transaction.commit.1 >>= .ok, transaction.commit.2) := by
    rcases ran : transaction.commit with ⟨_ | _, next⟩ <;> simp only [attempt, ran] <;> rfl
  refine sound_of_guarded tried fun answer next ran => ?_
  have cases := commit_cases ran
  cases answer with
  | error error => exact .of_error rfl cases rfl
  | ok _ =>
    obtain ⟨opened, database, saved⟩ := cases
    exact ⟨database, saved, fun _ => opened, nofun⟩

theorem trial_sound (transaction : Transaction) (attempt : Attempt) : (transaction.trial attempt).Sound := by
  cases attempt with
  | execute statement parameters => exact execute_sound transaction statement parameters
  | query statement parameters fetching => exact query_sound transaction statement parameters fetching
  | commit => exact commit_sound transaction
  | deferForeignKeys | cancel | expire =>
    exact ⟨rfl, rfl, nofun, nofun⟩

/-- What a course has done, seen from the transaction that it started from. -/
structure Course.Sound (course : Course) (start : Transaction) : Prop where
  database : course.left.connection.database = course.makes start.connection.database
  saved : course.left.connection.saved = if course.committed then none else start.connection.saved
  each : ∀ trial ∈ course.trials, trial.Sound ∧ trial.before.connection.saved = start.connection.saved

theorem course_sound (transaction : Transaction) (attempts : List Attempt) :
    (transaction.course attempts).Sound transaction := by
  induction attempts generalizing transaction with
  | nil => exact ⟨rfl, rfl, fun _ impossible => absurd impossible List.not_mem_nil⟩
  | cons attempt rest ih =>
    have sound := trial_sound transaction attempt
    have own (trial : Trial) (member : trial ∈ [transaction.trial attempt]) :
        trial.Sound ∧ trial.before.connection.saved = transaction.connection.saved := by
      cases List.mem_singleton.mp member
      exact ⟨sound, rfl⟩
    rw [course]
    dsimp only
    split
    · rename_i commits
      refine ⟨sound.database, ?_, own⟩
      rw [sound.saved, Course.committed, List.any_cons, commits]
      rfl
    · rename_i goes
      have same : (transaction.trial attempt).after.connection.saved = transaction.connection.saved := by
        rw [sound.saved, if_neg goes]
        rfl
      have later := ih (transaction.trial attempt).after
      refine ⟨?_, ?_, ?_⟩
      · rw [later.database, sound.database]
        rfl
      · rw [later.saved, same]
        simp only [Course.committed, List.any_cons, goes, Bool.false_or]
        rfl
      · intro trial member
        rcases List.mem_cons.mp member with first | further
        · exact own trial (List.mem_singleton.mpr first)
        · exact ⟨(later.each trial further).1, (later.each trial further).2.trans same⟩

theorem finish_cases (transaction : Transaction) (ending : Ending) :
    (transaction.finish ending).1 = .ok () ∧ (transaction.finish ending).2.autocommit = true ∧
      (transaction.finish ending).2.committed = transaction.connection.committed := by
  obtain ⟨⟨database, saved, _, _, _, _, _, _⟩, token⟩ := transaction
  cases saved <;> cases ending <;> exact ⟨rfl, rfl, rfl⟩

/-- A transaction that took effect as a whole or not at all. The trials that failed left it as it was. -/
structure Whole (connection : Connection) (course : Course) (outcome : Except StatementError Unit)
    (after : Connection) : Prop where
  closed : after.autocommit = true
  ended : outcome = .ok ()
  everything : course.committed = true → after.committed = course.makes connection.database
  nothing : course.committed = false → after.committed = connection.database
  unmoved : ∀ trial ∈ course.trials, ∀ error, trial.outcome = .error error →
    ∃ changes, trial.after = { trial.before with connection := { trial.before.connection with changes := changes } }

theorem course_whole {connection : Connection} {token : Token} {opened : Transaction}
    (begun : begin ⟨connection, token⟩ = (.ok (), opened)) (attempts : List Attempt) (ending : Ending) :
    let course := opened.course attempts
    let finished := course.left.finish ending
    Whole connection course finished.1 finished.2 := by
  intro course finished
  have opens : opened.connection = connection.opened := Connection.beginWriting_ok (guarded_ok begun)
  have sound := course_sound opened attempts
  obtain ⟨ended, closed, kept⟩ := course.left.finish_cases ending
  have saved : course.left.connection.saved = if course.committed then none else some connection.database := by
    rw [sound.saved, opens]
    rfl
  refine ⟨closed, ended, fun committed => ?_, fun uncommitted => ?_, fun trial member error refused => ?_⟩
  · rw [kept, Connection.committed, saved, if_pos committed, Option.getD_none, sound.database, opens]
    rfl
  · rw [kept, Connection.committed, saved, uncommitted]
    rfl
  · obtain ⟨each, same⟩ := sound.each trial member
    have within : trial.before.connection.autocommit = false := by
      rw [Connection.autocommit, same, opens]
      rfl
    obtain ⟨failed, token⟩ := each.failed error refused
    obtain ⟨changes, moved⟩ := failed.changes (Connection.statementEnd_eq within)
    exact ⟨changes, congr (congrArg Transaction.mk moved) token⟩

theorem course_all {transaction : Transaction} {attempts : List Attempt}
    (uncommitted : (transaction.course attempts).committed = false) :
    (transaction.course attempts).trials.map (·.attempt) = attempts := by
  induction attempts generalizing transaction with
  | nil => rfl
  | cons attempt rest ih =>
    rw [course] at uncommitted ⊢
    dsimp only at uncommitted ⊢
    split at uncommitted
    · rename_i commits
      rw [Course.committed, List.any_cons, commits] at uncommitted
      cases uncommitted
    · rename_i goes
      rw [Course.committed, List.any_cons, Bool.or_eq_false_iff] at uncommitted
      rw [if_neg goes, List.map_cons, ih uncommitted.2]
      rfl

/-- A badge without its scout keeps the first commit back, and the second takes both. -/
theorem course_whole_deferred :
    let connection := Connection.ofDatabase ⟨1, [.table Migration.boyScout, .table Migration.badges]⟩
    let opened := (begin ⟨connection, .live⟩).2
    let badge := .execute (.insert "boy_scout_badges" ["id", "ordinality"]) [.text "s-1", .integer 0]
    let scout := .execute (.insert "boy_scout" ["id"]) [.text "s-1"]
    let course := opened.course [badge, .deferForeignKeys, badge, .commit, scout, .commit]
    let finished := course.left.finish .drop
    begin ⟨connection, .live⟩ = (.ok (), opened) ∧
      course.trials.map (·.outcome.isOk) = [false, true, true, false, true, true] ∧
      course.committed = true ∧ Whole connection course finished.1 finished.2 := by
  intro connection opened badge scout course finished
  have begun : begin ⟨connection, .live⟩ = (.ok (), opened) := rfl
  refine ⟨begun, by decide +kernel, by decide +kernel, ?_⟩
  exact course_whole begun [badge, .deferForeignKeys, badge, .commit, scout, .commit] .drop

/-- What becomes of a handle after its commit has succeeded. It never commits again, and what its statements make of
the database lasts as soon as they succeed, whatever ends the handle. -/
structure PassesOn (handle : Transaction) (attempts : List Attempt) (course : Course)
    (outcome : Except StatementError Unit) (after : Connection) : Prop where
  closed : after.autocommit = true
  ended : outcome = .ok ()
  tried : course.trials.map (·.attempt) = attempts
  uncommitted : course.committed = false
  lasts : ∀ trial ∈ course.trials,
    trial.after.connection.committed = trial.makes trial.before.connection.committed
  through : after.committed = course.makes handle.connection.committed

theorem course_passesOn {transaction handle : Transaction} (committed : transaction.commit = (.ok (), handle))
    (attempts : List Attempt) (ending : Ending) :
    let course := handle.course attempts
    let finished := course.left.finish ending
    PassesOn handle attempts course finished.1 finished.2 := by
  intro course finished
  have unsaved : handle.connection.saved = none := (commit_cases (guarded_ok committed)).2.2
  have sound := course_sound handle attempts
  obtain ⟨ended, closed, kept⟩ := course.left.finish_cases ending
  have shut (trial : Trial) (member : trial ∈ course.trials) : trial.commits = false := by
    obtain ⟨each, same⟩ := sound.each trial member
    cases commits : trial.commits with
    | false => rfl
    | true =>
      have opened := each.opened commits
      rw [Connection.autocommit, same, unsaved] at opened
      cases opened
  have uncommitted : course.committed = false := List.any_eq_false.mpr fun trial member => by
    rw [shut trial member]
    exact Bool.false_ne_true
  refine ⟨closed, ended, course_all uncommitted, uncommitted, fun trial member => ?_, ?_⟩
  · obtain ⟨each, same⟩ := sound.each trial member
    rw [unsaved] at same
    rw [Connection.committed, Connection.committed, each.saved, shut trial member, same]
    exact each.database
  · have saved := sound.saved
    rw [uncommitted, unsaved] at saved
    rw [kept, Connection.committed, Connection.committed, saved, unsaved]
    exact sound.database

/-- A statement on a handle whose commit has succeeded. -/
theorem course_passesOn_inserted :
    let connection := Connection.ofDatabase ⟨1, [.table Migration.girlScout]⟩
    let opened := (begin ⟨connection, .live⟩).2
    let handle := opened.commit.2
    let attempts := [.execute (.insert "girl_scout" ["id"]) [.text "s-1"], .commit, .cancel]
    let course := handle.course attempts
    let finished := course.left.finish .rollback
    opened.commit = (.ok (), handle) ∧ PassesOn handle attempts course finished.1 finished.2 := by
  intro connection opened handle attempts course finished
  have committed : opened.commit = (.ok (), handle) := rfl
  exact ⟨committed, course_passesOn committed attempts .rollback⟩

/-- So a commit does not end a handle. What is written after it stays, although no commit follows and the rollback that
does succeeds. -/
theorem rollback_keeps_inserted :
    let connection := Connection.ofDatabase ⟨1, [.table Migration.girlScout]⟩
    let opened := (begin ⟨connection, .live⟩).2
    let handle := opened.commit.2
    let course := handle.course [.execute (.insert "girl_scout" ["id"]) [.text "s-1"]]
    let finished := course.left.finish .rollback
    begin ⟨connection, .live⟩ = (.ok (), opened) ∧ opened.commit = (.ok (), handle) ∧ course.committed = false ∧
      finished.1 = .ok () ∧ finished.2.committed ≠ handle.connection.committed :=
  ⟨rfl, rfl, by decide +kernel, (finish_cases _ _).1, by decide +kernel⟩

end EntityStore.Engine.Transaction
