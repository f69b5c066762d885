import Mathlib.Data.List.Induction
import EntityStore.Logging.Journal
import EntityStore.Proofs.Directories
import EntityStore.Proofs.Settings

/-! The log starts once. Until a start succeeds, starts that fail leave nothing behind but directories, and after it
the settings stay what they are, whatever is asked for. -/

namespace EntityStore.Logging

/-- What is asked for, and how the file logger takes it. -/
structure Start where
  level : String
  directory : String
  logger : Except String Unit

def Start.Asks (start : Start) (settings : Settings) : Prop := settings.ReadFrom start.level start.directory

/-- Settings that mean the same: one level, and one directory however its path is written. -/
structure Settings.Same (settings other : Settings) : Prop where
  level : settings.level = other.level
  directory : components settings.directory = components other.directory

theorem Start.asks_iff {start : Start} {settings : Settings} :
    start.Asks settings ↔ Settings.parse start.level start.directory = .ok settings :=
  Settings.parse_eq_ok.symm

theorem Start.Asks.unique {start : Start} {settings other : Settings} (asks : start.Asks settings)
    (again : start.Asks other) : settings = other := by
  rw [asks_iff] at asks again
  rw [asks] at again
  cases again
  rfl

theorem Settings.conflict?_eq_none {current requested : Settings} :
    current.conflict? requested = none ↔ requested.Same current := by
  unfold conflict?
  split
  next apart => exact iff_of_false nofun fun same => apart same.directory.symm
  next alike =>
    rw [ne_eq, Classical.not_not] at alike
    split
    next apart => exact iff_of_false nofun fun same => apart same.level.symm
    next level =>
      rw [ne_eq, Classical.not_not] at level
      exact iff_of_true rfl ⟨level.symm, alike.symm⟩

theorem Settings.Same.refl (settings : Settings) : settings.Same settings := ⟨rfl, rfl⟩

namespace Journal
variable (journal : Journal)

def begin (start : Start) : Except StartError Unit × Journal := journal.start start.logger start.level start.directory

/-- A start that goes through: its settings are valid, the directory can be made and the file logger starts. -/
structure Starts (start : Start) (settings : Settings) : Prop where
  asks : start.Asks settings
  made : (journal.tree.makeNamed settings.directory).1 = .ok ()
  taken : start.logger = .ok ()

/-- What a start does before the log runs. -/
structure Tries (start : Start) : Prop where
  succeeds : (journal.begin start).1 = .ok () ↔ ∃ settings, journal.Starts start settings
  status (settings : Settings) : (journal.begin start).2.status = some settings ↔ journal.Starts start settings
  /-- What is not understood is not tried. -/
  unread (invalid : ∀ settings, ¬ start.Asks settings) : (journal.begin start).2 = journal
  failed (fails : (journal.begin start).1 ≠ .ok ()) :
    (journal.begin start).2.active = none ∧ journal.tree.Extends (journal.begin start).2.tree
  harmless (fails : (journal.begin start).1 ≠ .ok ()) {other : Start} {settings : Settings}
    (starts : journal.Starts other settings) : (journal.begin start).2.Starts other settings

/-- What a start does while the log runs. -/
structure Insists (settings : Settings) (start : Start) : Prop where
  succeeds : (journal.begin start).1 = .ok () ↔ ∃ requested, start.Asks requested ∧ requested.Same settings
  unchanged : (journal.begin start).2 = journal

variable {journal}

theorem status_log (event : Event) : (journal.log event).status = journal.status := by
  unfold log
  split
  · rfl
  next active running =>
    split
    · rfl
    · rw [status, status, running]
      rfl

theorem activate_ok {settings : Settings} (made : (journal.tree.makeNamed settings.directory).1 = .ok ()) :
    ∃ active after, journal.activate (.ok ()) settings = (.ok active, after) ∧ active.settings = settings ∧
      after.status = some settings := by
  obtain ⟨place, leads⟩ := FileTree.makeNamed_leads made
  unfold activate
  simp only [made, leads]
  exact ⟨_, _, rfl, rfl, status_log _⟩

theorem activate_error {settings : Settings} {logger : Except String Unit}
    (fails : ¬ ((journal.tree.makeNamed settings.directory).1 = .ok () ∧ logger = .ok ())) :
    ∃ error, journal.activate logger settings =
      (.error error, { journal with tree := (journal.tree.makeNamed settings.directory).2 }) := by
  unfold activate
  rcases made : journal.tree.makeNamed settings.directory with ⟨error | _, tree⟩
  · exact ⟨_, rfl⟩
  · cases logger with
    | error cause => exact ⟨_, rfl⟩
    | ok => exact absurd ⟨congrArg Prod.fst made, rfl⟩ fails

theorem begin_unread {start : Start} (invalid : ∀ settings, ¬ start.Asks settings) :
    ∃ error, journal.begin start = (.error error, journal) := by
  unfold begin Journal.start
  cases parsed : Settings.parse start.level start.directory with
  | error cause => exact ⟨_, rfl⟩
  | ok settings => exact absurd (Start.asks_iff.mpr parsed) (invalid settings)

theorem begin_asks {start : Start} {settings : Settings} (asks : start.Asks settings) :
    journal.begin start = journal.startWith start.logger settings := by
  rw [begin, Journal.start, Start.asks_iff.mp asks]

theorem begin_starts {start : Start} {settings : Settings} (idle : journal.active = none)
    (starts : journal.Starts start settings) :
    ∃ after, journal.begin start = (.ok (), after) ∧ after.status = some settings := by
  obtain ⟨active, after, activated, same, running⟩ := activate_ok starts.made
  refine ⟨after, ?_, running⟩
  have fits : active.settings.conflict? settings = none := by
    rw [Settings.conflict?_eq_none, same]
    exact .refl settings
  simp only [begin_asks starts.asks, startWith, activeOr, idle, starts.taken, activated, fits]

theorem begin_fails {start : Start} (idle : journal.active = none) (fails : ∀ settings, ¬ journal.Starts start settings) :
    ∃ error tree, journal.begin start = (.error error, { journal with tree := tree }) ∧ journal.tree.Extends tree := by
  rcases Classical.em (∃ settings, start.Asks settings) with ⟨settings, asks⟩ | invalid
  · obtain ⟨error, failed⟩ := activate_error fun both => fails settings ⟨asks, both.1, both.2⟩
    refine ⟨error, _, ?_, journal.tree.makeNamed_extends settings.directory⟩
    simp only [begin_asks asks, startWith, activeOr, idle, failed]
  · obtain ⟨error, same⟩ := journal.begin_unread fun settings asks => invalid ⟨settings, asks⟩
    exact ⟨error, journal.tree, same, .refl _⟩

theorem status_eq_none : journal.status = none ↔ journal.active = none := Option.map_eq_none_iff

theorem tries (idle : journal.active = none) (start : Start) : journal.Tries start := by
  rcases Classical.em (∃ settings, journal.Starts start settings) with ⟨settings, starts⟩ | never
  · obtain ⟨after, done, running⟩ := begin_starts idle starts
    have succeeds : (journal.begin start).1 = .ok () := by rw [done]
    refine ⟨iff_of_true succeeds ⟨settings, starts⟩, fun other => ?_, fun invalid => absurd starts.asks (invalid settings),
      fun fails => absurd succeeds fails, fun fails => absurd succeeds fails⟩
    rw [done, running, Option.some_inj]
    constructor
    · rintro rfl
      exact starts
    · intro again
      exact starts.asks.unique again.asks
  · obtain ⟨error, tree, done, more⟩ := begin_fails idle (not_exists.mp never)
    have stopped : (journal.begin start).1 ≠ .ok () := by
      rw [done]
      exact nofun
    refine ⟨iff_of_false stopped never, fun settings => ?_, fun invalid => ?_, fun _ => ?_, fun _ other settings starts => ?_⟩
    · refine iff_of_false ?_ (not_exists.mp never settings)
      rw [done]
      change journal.status ≠ some settings
      rw [status_eq_none.mpr idle]
      exact nofun
    · obtain ⟨error, same⟩ := journal.begin_unread invalid
      rw [same]
    · rw [done]
      exact ⟨idle, more⟩
    · rw [done]
      exact ⟨starts.asks, FileTree.makeNamed_mono more starts.made, starts.taken⟩

theorem begin_running {start : Start} {settings : Settings} {active : Active} (running : journal.active = some active)
    (asks : start.Asks settings) :
    ((journal.begin start).1 = .ok () ↔ settings.Same active.settings) ∧ (journal.begin start).2 = journal := by
  rw [← Settings.conflict?_eq_none]
  simp only [begin_asks asks, startWith, activeOr, running]
  cases active.settings.conflict? settings with
  | none => exact ⟨iff_of_true rfl rfl, rfl⟩
  | some conflict => exact ⟨iff_of_false nofun nofun, rfl⟩

theorem insists {settings : Settings} (running : journal.status = some settings) (start : Start) :
    journal.Insists settings start := by
  obtain ⟨active, found, rfl⟩ := Option.map_eq_some_iff.mp running
  rcases Classical.em (∃ settings, start.Asks settings) with ⟨settings, asks⟩ | invalid
  · obtain ⟨succeeds, unchanged⟩ := begin_running found asks
    refine ⟨?_, unchanged⟩
    rw [succeeds]
    constructor
    · intro same
      exact ⟨settings, asks, same⟩
    · rintro ⟨requested, again, same⟩
      rwa [asks.unique again]
  · obtain ⟨error, same⟩ := journal.begin_unread fun settings asks => invalid ⟨settings, asks⟩
    constructor
    · rw [same]
      refine iff_of_false nofun ?_
      rintro ⟨requested, asks, -⟩
      exact invalid ⟨requested, asks⟩
    · rw [same]

/-! Courses -/

/-- What happens to a journal: somebody asks for a start, an event is logged, or the files change. -/
inductive Step where
  | start (start : Start)
  | log (event : Event)
  | files (tree : FileTree)

def act (journal : Journal) : Step → Journal
  | .start start => (journal.begin start).2
  | .log event => journal.log event
  | .files tree => { journal with tree := tree }

def run (journal : Journal) (steps : List Step) : Journal := steps.foldl act journal

theorem act_keeps {settings : Settings} (running : journal.status = some settings) (step : Step) :
    (journal.act step).status = some settings := by
  cases step with
  | start start =>
    rw [act, (insists running start).unchanged, running]
  | log event => rw [act, status_log, running]
  | files tree => exact running

theorem act_starts {settings : Settings} (idle : journal.status = none) (step : Step) :
    (journal.act step).status = some settings ↔ ∃ start, step = .start start ∧ journal.Starts start settings := by
  cases step with
  | start start =>
    rw [act, (tries (status_eq_none.mp idle) start).status]
    simp
  | log event =>
    rw [act, status_log, idle]
    exact iff_of_false nofun nofun
  | files tree =>
    rw [act, status]
    refine iff_of_false ?_ nofun
    rw [status_eq_none.mp idle]
    exact nofun

theorem run_keeps {settings : Settings} (running : journal.status = some settings) (steps : List Step) :
    (journal.run steps).status = some settings := by
  induction steps generalizing journal with
  | nil => exact running
  | cons step rest ih => exact ih (act_keeps running step)

theorem run_cons (journal : Journal) (step : Step) (rest : List Step) :
    journal.run (step :: rest) = (journal.act step).run rest := rfl

theorem run_append (journal : Journal) (first rest : List Step) :
    journal.run (first ++ rest) = (journal.run first).run rest := List.foldl_append ..

/-- Settings in use are those of the first start that went through. -/
theorem run_status {settings : Settings} (idle : journal.status = none) (steps : List Step) :
    (journal.run steps).status = some settings ↔ ∃ before start after, steps = before ++ .start start :: after ∧
      (journal.run before).status = none ∧ (journal.run before).Starts start settings := by
  constructor
  · induction steps using List.reverseRecOn with
    | nil =>
      intro running
      rw [run, List.foldl_nil, idle] at running
      cases running
    | append_singleton steps step ih =>
      intro running
      rw [run_append] at running
      rcases before : (journal.run steps).status with _ | settled
      · obtain ⟨start, rfl, starts⟩ := (act_starts before step).mp running
        exact ⟨steps, start, [], rfl, before, starts⟩
      · have same := (run_keeps before [step]).symm.trans running
        cases same
        obtain ⟨first, start, after, rfl, idle, starts⟩ := ih before
        exact ⟨first, start, after ++ [step], by simp, idle, starts⟩
  · rintro ⟨before, start, after, rfl, idle, starts⟩
    rw [run_append, run_cons]
    exact run_keeps ((act_starts idle (.start start)).mpr ⟨start, rfl, starts⟩) after

/-- The log is started at most once: by the first start that is valid and goes through, and for good. Every start after
it succeeds exactly if it asks for the same, and changes nothing. -/
theorem run_startsOnce (tree : FileTree) (steps : List Step) :
    let journal := run ⟨tree, none⟩ steps
    (∀ settings, journal.status = some settings ↔ ∃ before start after, steps = before ++ .start start :: after ∧
      (run ⟨tree, none⟩ before).status = none ∧ (run ⟨tree, none⟩ before).Starts start settings) ∧
    (∀ settings, journal.status = some settings → ∀ later, (journal.run later).status = some settings) ∧
    (journal.status = none → ∀ start, journal.Tries start) ∧
    ∀ settings, journal.status = some settings → ∀ start, journal.Insists settings start := by
  intro journal
  exact ⟨fun settings => run_status rfl steps, fun settings => run_keeps, fun idle => tries (status_eq_none.mp idle),
    fun settings => insists⟩

end Journal
end EntityStore.Logging
