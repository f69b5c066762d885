import EntityStore.Proofs.Watching
import Mathlib.Data.List.Infix
import Mathlib.Logic.Relation

/-! Families of tokens. What a token answers is given by what happened to it: tokens that were cloned from one another are
of one family, and a token is cancelled when any of its family was, and never because of another family. -/

namespace EntityStore

/-- A step on tokens, its moment, and what came of it. -/
structure TokenEvent where
  now : Int
  step : TokenStep
  outcome : Except ClockOverflow TokenReply

namespace TokenEvent

def Makes (event : TokenEvent) (index : Nat) : Prop := event.outcome = .ok (.made index)

def Clones (event : TokenEvent) (index copy : Nat) : Prop := event.step = .clone index ∧ event.Makes copy

/-- Makes the first token of a family, with a deadline or with none. -/
def Founds (event : TokenEvent) (index : Nat) (deadline : Option Int) : Prop :=
  event.Makes index ∧ ((∃ cancelled, event.step = .create deadline cancelled) ∨
    ∃ seconds : Nat, event.step = .timeout seconds ∧ deadline = some (event.now + seconds))

end TokenEvent

namespace Tokens

/-- A step that the clock overflows at is answered with that and changes nothing. -/
def settle (tokens : Tokens) (now : Int) (step : TokenStep) : Except ClockOverflow TokenReply × Tokens :=
  match tokens.step now step with
  | .ok (reply, next) => (.ok reply, next)
  | .error error => (.error error, tokens)

/-- The events of steps, each at its moment. -/
def history (tokens : Tokens) : List (Int × TokenStep) → List TokenEvent
  | [] => []
  | (now, step) :: rest => ⟨now, step, (tokens.settle now step).1⟩ :: (tokens.settle now step).2.history rest

def after (tokens : Tokens) (steps : List (Int × TokenStep)) : Tokens :=
  steps.foldl (fun tokens (now, step) => (tokens.settle now step).2) tokens

theorem after_append (tokens : Tokens) (first rest : List (Int × TokenStep)) :
    tokens.after (first ++ rest) = (tokens.after first).after rest := List.foldl_append

theorem history_append (tokens : Tokens) (first rest : List (Int × TokenStep)) :
    tokens.history (first ++ rest) = tokens.history first ++ (tokens.after first).history rest := by
  induction first generalizing tokens with
  | nil => rfl
  | cons timed first ih => exact congrArg (_ :: ·) (ih _)

/-! ### What a history says -/

section History
variable (history : List TokenEvent)

def Made (index : Nat) : Prop := ∃ event ∈ history, event.Makes index

def Cloned (index copy : Nat) : Prop := ∃ event ∈ history, event.Clones index copy

def Founded (index : Nat) (deadline : Option Int) : Prop := ∃ event ∈ history, event.Founds index deadline

/-- Cloned from one another, in either direction and by way of any tokens between them. -/
def Akin : Nat → Nat → Prop := Relation.EqvGen (Cloned history)

/-- After a history an event cancels this very token, or makes it and cancels it at once. -/
def Hits (event : TokenEvent) (index : Nat) : Prop :=
  event.step = .cancel index ∧ Made history index ∨
    (∃ deadline, event.step = .create deadline true) ∧ event.Makes index

def Hit (index : Nat) : Prop := ∃ before event, before ++ [event] <+: history ∧ Hits before event index

def Cancelled (index : Nat) : Prop := ∃ other, Akin history index other ∧ Hit history other

/-- The deadline that the family was created with is reached. -/
def Due (now : Int) (index : Nat) : Prop :=
  ∃ root deadline, Akin history index root ∧ Founded history root (some deadline) ∧ deadline ≤ now

end History

section Concat
variable {history : List TokenEvent} {event : TokenEvent} {index other : Nat} {deadline : Option Int}

theorem made_concat : Made (history ++ [event]) index ↔ Made history index ∨ event.Makes index := by
  simp [Made, or_and_right, exists_or]

theorem cloned_concat :
    Cloned (history ++ [event]) index other ↔ Cloned history index other ∨ event.Clones index other := by
  simp [Cloned, or_and_right, exists_or]

theorem founded_concat :
    Founded (history ++ [event]) index deadline ↔ Founded history index deadline ∨ event.Founds index deadline := by
  simp [Founded, or_and_right, exists_or]

theorem hit_concat : Hit (history ++ [event]) index ↔ Hit history index ∨ Hits history event index := by
  constructor
  · rintro ⟨before, last, early, hits⟩
    rcases List.prefix_concat_iff.mp early with same | early
    · obtain ⟨rfl, ⟨⟩⟩ := List.append_inj' same rfl
      exact .inr hits
    · exact .inl ⟨before, last, early, hits⟩
  · rintro (⟨before, last, early, hits⟩ | hits)
    · exact ⟨before, last, early.trans (List.prefix_append _ _), hits⟩
    · exact ⟨history, event, List.prefix_rfl, hits⟩

end Concat

section Lasting
variable {history later : List TokenEvent} {index other : Nat} {now moment : Int}

theorem Made.mono (early : history <+: later) (made : Made history index) : Made later index := by
  obtain ⟨event, member, makes⟩ := made
  exact ⟨event, early.subset member, makes⟩

theorem Akin.mono (early : history <+: later) (akin : Akin history index other) : Akin later index other :=
  Relation.EqvGen.mono (fun _ _ ⟨event, member, clones⟩ => ⟨event, early.subset member, clones⟩) _ _ akin

theorem Akin.concat (akin : Akin history index other) (event : TokenEvent) : Akin (history ++ [event]) index other :=
  akin.mono (List.prefix_append _ _)

/-- What happened to a token happened to all that are of its family by then. -/
theorem Cancelled.lasts (early : history <+: later) (cancelled : Cancelled history index)
    (akin : Akin later index other) : Cancelled later other := by
  obtain ⟨kin, near, before, event, within, hits⟩ := cancelled
  exact ⟨kin, .trans _ _ _ (.symm _ _ akin) (near.mono early), before, event, within.trans early, hits⟩

theorem Due.lasts (early : history <+: later) (passed : now ≤ moment) (due : Due history now index)
    (akin : Akin later index other) : Due later moment other := by
  obtain ⟨root, deadline, near, ⟨event, member, founds⟩, reached⟩ := due
  exact ⟨root, deadline, .trans _ _ _ (.symm _ _ akin) (near.mono early), ⟨event, early.subset member, founds⟩,
    Int.le_trans reached passed⟩

end Lasting

/-! ### What a step comes to -/

/-- A step makes a token of a new family, one more token of a family, sets a flag, or leaves everything as it is. -/
inductive Effect (tokens : Tokens) (now : Int) : TokenStep → Except ClockOverflow TokenReply → Tokens → Prop
  | create (deadline : Option Int) (cancelled : Bool) :
      Effect tokens now (.create deadline cancelled) (.ok (.made tokens.handles.length))
        (tokens.create deadline cancelled)
  | timeout (seconds : Nat) :
      Effect tokens now (.timeout seconds) (.ok (.made tokens.handles.length))
        (tokens.create (some (now + seconds)) false)
  | clone {index : Nat} {handle : Handle} (found : tokens.handles[index]? = some handle) :
      Effect tokens now (.clone index) (.ok (.made tokens.handles.length))
        { tokens with handles := tokens.handles ++ [handle] }
  | cancel {index : Nat} {handle : Handle} (found : tokens.handles[index]? = some handle) :
      Effect tokens now (.cancel index) (.ok .done) { tokens with flags := tokens.flags.set handle.family true }
  | none {step : TokenStep} {outcome : Except ClockOverflow TokenReply} (unmade : ∀ index, outcome ≠ .ok (.made index))
      (missing : ∀ index, step = .cancel index → tokens.handles[index]? = .none) :
      Effect tokens now step outcome tokens

theorem settle_effect (tokens : Tokens) (now : Int) (step : TokenStep) :
    tokens.Effect now step (tokens.settle now step).1 (tokens.settle now step).2 := by
  cases step with
  | create deadline cancelled => exact .create deadline cancelled
  | timeout seconds =>
    by_cases inside : now + seconds ∈ IntRange.signed64
    · simp only [settle, step, if_pos inside]
      exact .timeout seconds
    · simp only [settle, step, if_neg inside]
      exact .none (by simp) (by simp)
  | clone index =>
    cases found : tokens.handles[index]? with
    | some handle =>
      simp only [settle, step, found]
      exact .clone found
    | none =>
      simp only [settle, step, found]
      exact .none (by simp) (by simp)
  | cancel index =>
    cases found : tokens.handles[index]? with
    | some handle =>
      simp only [settle, step, found]
      exact .cancel found
    | none =>
      simp only [settle, step, found]
      refine .none (by simp) fun other same => ?_
      cases same
      exact found
  | isCancelled index | check index =>
    cases found : tokens.handles[index]? <;> simp only [settle, step, found] <;> exact .none (by simp) (by simp)

theorem Effect.handles {tokens next : Tokens} {now : Int} {step : TokenStep} {outcome : Except ClockOverflow TokenReply}
    (effect : tokens.Effect now step outcome next) : tokens.handles <+: next.handles := by
  cases effect with
  | create | timeout | clone => exact List.prefix_append _ _
  | cancel | none => exact List.prefix_rfl

theorem handles_after (tokens : Tokens) (steps : List (Int × TokenStep)) :
    tokens.handles <+: (tokens.after steps).handles := by
  induction steps generalizing tokens with
  | nil => exact List.prefix_rfl
  | cons timed steps ih => exact (settle_effect tokens timed.1 timed.2).handles.trans (ih _)

theorem getElem?_append {tokens : Tokens} {steps : List (Int × TokenStep)} {index : Nat} {handle : Handle}
    (found : (tokens.after steps).handles[index]? = some handle) (more : List (Int × TokenStep)) :
    (tokens.after (steps ++ more)).handles[index]? = some handle := by
  obtain ⟨later, same⟩ := (tokens.after steps).handles_after more
  rw [after_append, ← same, List.getElem?_append_left (List.getElem?_eq_some_iff.mp found).1, found]

/-! ### What tokens keep of their history -/

/-- The tokens are those that a history made: tokens with one flag are kin, a flag is set where a token with it was hit, and
each token has the deadline of the first of its family. -/
structure Mirrors (tokens : Tokens) (history : List TokenEvent) : Prop where
  made : ∀ index, Made history index ↔ index < tokens.handles.length
  inside : ∀ handle ∈ tokens.handles, handle.family < tokens.flags.length
  cloned : ∀ {index copy}, Cloned history index copy →
    ∃ handle, tokens.handles[index]? = some handle ∧ tokens.handles[copy]? = some handle
  akin : ∀ {index other first second}, tokens.handles[index]? = some first → tokens.handles[other]? = some second →
    first.family = second.family → Akin history index other
  founded : ∀ {index deadline}, Founded history index deadline →
    ∃ handle, tokens.handles[index]? = some handle ∧ handle.deadline = deadline
  founder : ∀ {index handle}, tokens.handles[index]? = some handle →
    ∃ root, Akin history index root ∧ Founded history root handle.deadline
  hit : ∀ {index}, Hit history index →
    ∃ handle, tokens.handles[index]? = some handle ∧ tokens.flags[handle.family]? = some true
  flagged : ∀ {family}, tokens.flags[family]? = some true →
    ∃ index handle, tokens.handles[index]? = some handle ∧ handle.family = family ∧ Hit history index

theorem getElem?_concat {α : Type} {items : List α} {last item : α} {index : Nat} :
    (items ++ [last])[index]? = some item ↔ items[index]? = some item ∨ index = items.length ∧ last = item := by
  rcases Nat.lt_trichotomy index items.length with inside | rfl | outside
  · rw [List.getElem?_append_left inside]
    simp [Nat.ne_of_lt inside]
  · simp
  · rw [List.getElem?_append_right (Nat.le_of_lt outside)]
    have more : index - items.length ≠ 0 := by omega
    simp [List.getElem?_eq_none (Nat.le_of_lt outside), Nat.ne_of_gt outside, more]

namespace Mirrors
variable {tokens : Tokens} {history : List TokenEvent}

theorem empty : Tokens.empty.Mirrors [] where
  made index := by simp [Made, Tokens.empty]
  inside := nofun
  cloned cloned := by simp [Cloned] at cloned
  akin found := by simp [Tokens.empty] at found
  founded founded := by simp [Founded] at founded
  founder found := by simp [Tokens.empty] at found
  hit hit := by
    obtain ⟨before, event, early, -⟩ := hit
    simp at early
  flagged set := by simp [Tokens.empty] at set

theorem create (mirrors : tokens.Mirrors history) {event : TokenEvent} {deadline : Option Int} {cancelled : Bool}
    (makes : ∀ index, event.Makes index ↔ index = tokens.handles.length)
    (founds : ∀ index other, event.Founds index other ↔ index = tokens.handles.length ∧ other = deadline)
    (clones : ∀ index copy, ¬ event.Clones index copy)
    (hits : ∀ index, Hits history event index ↔ cancelled = true ∧ index = tokens.handles.length) :
    (tokens.create deadline cancelled).Mirrors (history ++ [event]) where
  made index := by
    rw [made_concat, mirrors.made, makes, Tokens.create, List.length_append, List.length_singleton]
    omega
  inside handle member := by
    rw [Tokens.create, List.length_append, List.length_singleton]
    rcases List.mem_append.mp member with old | new
    · exact Nat.lt_succ_of_lt (mirrors.inside handle old)
    · rw [List.mem_singleton.mp new]
      exact Nat.lt_succ_self _
  cloned cloned := by
    obtain ⟨handle, here, there⟩ := mirrors.cloned ((cloned_concat.mp cloned).resolve_right (clones _ _))
    exact ⟨handle, getElem?_concat.mpr (.inl here), getElem?_concat.mpr (.inl there)⟩
  akin here there same := by
    rcases getElem?_concat.mp here with here | ⟨rfl, rfl⟩ <;>
      rcases getElem?_concat.mp there with there | ⟨rfl, rfl⟩
    · exact (mirrors.akin here there same).concat event
    · exact absurd same (Nat.ne_of_lt (mirrors.inside _ (List.mem_of_getElem? here)))
    · exact absurd same.symm (Nat.ne_of_lt (mirrors.inside _ (List.mem_of_getElem? there)))
    · exact .refl _
  founded founded := by
    rcases founded_concat.mp founded with founded | founds'
    · obtain ⟨handle, found, same⟩ := mirrors.founded founded
      exact ⟨handle, getElem?_concat.mpr (.inl found), same⟩
    · obtain ⟨rfl, rfl⟩ := (founds _ _).mp founds'
      exact ⟨_, getElem?_concat.mpr (.inr ⟨rfl, rfl⟩), rfl⟩
  founder found := by
    rcases getElem?_concat.mp found with found | ⟨rfl, rfl⟩
    · obtain ⟨root, akin, founded⟩ := mirrors.founder found
      exact ⟨root, akin.concat event, founded_concat.mpr (.inl founded)⟩
    · exact ⟨_, .refl _, founded_concat.mpr (.inr ((founds _ _).mpr ⟨rfl, rfl⟩))⟩
  hit hit := by
    rcases hit_concat.mp hit with hit | hits'
    · obtain ⟨handle, found, set⟩ := mirrors.hit hit
      exact ⟨handle, getElem?_concat.mpr (.inl found), getElem?_concat.mpr (.inl set)⟩
    · obtain ⟨rfl, rfl⟩ := (hits _).mp hits'
      exact ⟨_, getElem?_concat.mpr (.inr ⟨rfl, rfl⟩), getElem?_concat.mpr (.inr ⟨rfl, rfl⟩)⟩
  flagged set := by
    rcases getElem?_concat.mp set with set | ⟨rfl, rfl⟩
    · obtain ⟨index, handle, found, same, hit⟩ := mirrors.flagged set
      exact ⟨index, handle, getElem?_concat.mpr (.inl found), same, hit_concat.mpr (.inl hit)⟩
    · exact ⟨_, _, getElem?_concat.mpr (.inr ⟨rfl, rfl⟩), rfl, hit_concat.mpr (.inr ((hits _).mpr ⟨rfl, rfl⟩))⟩

theorem clone (mirrors : tokens.Mirrors history) {event : TokenEvent} {source : Nat} {handle : Handle}
    (found : tokens.handles[source]? = some handle)
    (makes : ∀ index, event.Makes index ↔ index = tokens.handles.length)
    (clones : ∀ index copy, event.Clones index copy ↔ index = source ∧ copy = tokens.handles.length)
    (founds : ∀ index deadline, ¬ event.Founds index deadline) (hits : ∀ index, ¬ Hits history event index) :
    ({ tokens with handles := tokens.handles ++ [handle] } : Tokens).Mirrors (history ++ [event]) := by
  have copied : Akin (history ++ [event]) source tokens.handles.length :=
    .rel _ _ (cloned_concat.mpr (.inr ((clones _ _).mpr ⟨rfl, rfl⟩)))
  constructor
  case made =>
    intro index
    rw [made_concat, mirrors.made, makes, List.length_append, List.length_singleton]
    omega
  case inside =>
    intro other member
    rcases List.mem_append.mp member with old | new
    · exact mirrors.inside other old
    · rw [List.mem_singleton.mp new]
      exact mirrors.inside handle (List.mem_of_getElem? found)
  case cloned =>
    intro index copy cloned
    rcases cloned_concat.mp cloned with cloned | clones'
    · obtain ⟨handle, here, there⟩ := mirrors.cloned cloned
      exact ⟨handle, getElem?_concat.mpr (.inl here), getElem?_concat.mpr (.inl there)⟩
    · obtain ⟨rfl, rfl⟩ := (clones _ _).mp clones'
      exact ⟨handle, getElem?_concat.mpr (.inl found), getElem?_concat.mpr (.inr ⟨rfl, rfl⟩)⟩
  case akin =>
    intro index other first second here there same
    rcases getElem?_concat.mp here with here | ⟨rfl, rfl⟩ <;>
      rcases getElem?_concat.mp there with there | ⟨rfl, rfl⟩
    · exact (mirrors.akin here there same).concat event
    · exact .trans _ _ _ ((mirrors.akin here found same).concat event) copied
    · exact .symm _ _ (.trans _ _ _ ((mirrors.akin there found same.symm).concat event) copied)
    · exact .refl _
  case founded =>
    intro index deadline founded
    obtain ⟨other, here, same⟩ := mirrors.founded ((founded_concat.mp founded).resolve_right (founds _ _))
    exact ⟨other, getElem?_concat.mpr (.inl here), same⟩
  case founder =>
    intro index other here
    rcases getElem?_concat.mp here with here | ⟨rfl, rfl⟩
    · obtain ⟨root, akin, founded⟩ := mirrors.founder here
      exact ⟨root, akin.concat event, founded_concat.mpr (.inl founded)⟩
    · obtain ⟨root, akin, founded⟩ := mirrors.founder found
      exact ⟨root, .trans _ _ _ (.symm _ _ copied) (akin.concat event), founded_concat.mpr (.inl founded)⟩
  case hit =>
    intro index hit
    obtain ⟨other, here, set⟩ := mirrors.hit ((hit_concat.mp hit).resolve_right (hits _))
    exact ⟨other, getElem?_concat.mpr (.inl here), set⟩
  case flagged =>
    intro family set
    obtain ⟨index, other, here, same, hit⟩ := mirrors.flagged set
    exact ⟨index, other, getElem?_concat.mpr (.inl here), same, hit_concat.mpr (.inl hit)⟩

theorem unmade (mirrors : tokens.Mirrors history) {event : TokenEvent} {flags : List Bool}
    (makes : ∀ index, ¬ event.Makes index) (length : flags.length = tokens.flags.length)
    (kept : ∀ family : Nat, tokens.flags[family]? = some true → flags[family]? = some true)
    (hits : ∀ index, Hits history event index →
      ∃ handle, tokens.handles[index]? = some handle ∧ flags[handle.family]? = some true)
    (flagged : ∀ family : Nat, flags[family]? = some true → tokens.flags[family]? = some true ∨
      ∃ index handle, tokens.handles[index]? = some handle ∧ handle.family = family ∧ Hits history event index) :
    ({ tokens with flags := flags } : Tokens).Mirrors (history ++ [event]) where
  made index := by rw [made_concat, mirrors.made, or_iff_left (makes index)]
  inside handle member := by rw [length]; exact mirrors.inside handle member
  cloned cloned := mirrors.cloned ((cloned_concat.mp cloned).resolve_right fun clones => makes _ clones.2)
  akin here there same := (mirrors.akin here there same).concat event
  founded founded := mirrors.founded ((founded_concat.mp founded).resolve_right fun founds => makes _ founds.1)
  founder found := by
    obtain ⟨root, akin, founded⟩ := mirrors.founder found
    exact ⟨root, akin.concat event, founded_concat.mpr (.inl founded)⟩
  hit hit := by
    rcases hit_concat.mp hit with hit | hit
    · obtain ⟨handle, found, set⟩ := mirrors.hit hit
      exact ⟨handle, found, kept _ set⟩
    · exact hits _ hit
  flagged set := by
    rcases flagged _ set with set | ⟨index, handle, found, same, hit⟩
    · obtain ⟨index, handle, found, same, hit⟩ := mirrors.flagged set
      exact ⟨index, handle, found, same, hit_concat.mpr (.inl hit)⟩
    · exact ⟨index, handle, found, same, hit_concat.mpr (.inr hit)⟩

/-- Whatever a step comes to, the tokens after it mirror the history with it. -/
theorem concat (mirrors : tokens.Mirrors history) {event : TokenEvent} {next : Tokens}
    (effect : tokens.Effect event.now event.step event.outcome next) : next.Mirrors (history ++ [event]) := by
  obtain ⟨now, step, outcome⟩ := event
  cases effect with
  | create | timeout =>
    refine mirrors.create ?_ ?_ ?_ ?_
    · simp [TokenEvent.Makes, eq_comm]
    · simp [TokenEvent.Founds, TokenEvent.Makes, eq_comm]
    · simp [TokenEvent.Clones]
    · simp [Hits, TokenEvent.Makes, eq_comm]
  | clone found =>
    refine mirrors.clone found ?_ ?_ ?_ ?_
    · simp [TokenEvent.Makes, eq_comm]
    · simp [TokenEvent.Clones, TokenEvent.Makes, eq_comm]
    · simp [TokenEvent.Founds]
    · simp [Hits]
  | @cancel index handle found =>
    have inside := mirrors.inside handle (List.mem_of_getElem? found)
    refine mirrors.unmade (by simp [TokenEvent.Makes]) List.length_set (fun family set => ?_) ?_ fun family set => ?_
    · by_cases same : handle.family = family
      · subst same
        exact List.getElem?_set_self inside
      · exact (List.getElem?_set_ne same).trans set
    · rintro other (⟨⟨⟩, -⟩ | ⟨-, ⟨⟩⟩)
      exact ⟨handle, found, List.getElem?_set_self inside⟩
    · by_cases same : handle.family = family
      · have hits : Hits history ⟨now, .cancel index, .ok .done⟩ index :=
          .inl ⟨rfl, (mirrors.made index).mpr (List.getElem?_eq_some_iff.mp found).1⟩
        exact .inr ⟨index, handle, found, same, hits⟩
      · exact .inl ((List.getElem?_set_ne same).symm.trans set)
  | none unmade missing =>
    refine mirrors.unmade unmade rfl (fun _ set => set) ?_ fun _ set => .inl set
    rintro index (⟨asked, made⟩ | ⟨-, makes⟩)
    · have inside := (mirrors.made index).mp made
      exact absurd inside (Nat.not_lt.mpr (List.getElem?_eq_none_iff.mp (missing index asked)))
    · exact absurd makes (unmade index)

theorem alike (mirrors : tokens.Mirrors history) {index other : Nat} (akin : Akin history index other) :
    tokens.handles[index]? = tokens.handles[other]? := by
  induction akin with
  | rel index copy cloned =>
    obtain ⟨handle, here, there⟩ := mirrors.cloned cloned
    rw [here, there]
  | refl index => rfl
  | symm index other _ ih => exact ih.symm
  | trans index other last _ _ first second => exact first.trans second

theorem cancelled_iff (mirrors : tokens.Mirrors history) {index : Nat} {handle : Handle} (now : Int)
    (found : tokens.handles[index]? = some handle) :
    (tokens.view now handle).cancelled = true ↔ Cancelled history index := by
  rw [Tokens.cancelled_iff]
  constructor
  · intro set
    obtain ⟨other, second, there, same, hit⟩ := mirrors.flagged set
    exact ⟨other, mirrors.akin found there same.symm, hit⟩
  · rintro ⟨other, akin, hit⟩
    obtain ⟨second, there, set⟩ := mirrors.hit hit
    rw [← mirrors.alike akin, found] at there
    cases there
    exact set

theorem expired_iff (mirrors : tokens.Mirrors history) {index : Nat} {handle : Handle} (now : Int)
    (found : tokens.handles[index]? = some handle) :
    (tokens.view now handle).expired = true ↔ Due history now index := by
  change handle.deadline.any (· ≤ now) = true ↔ _
  rw [Option.any_eq_true]
  constructor
  · rintro ⟨deadline, known, reached⟩
    obtain ⟨root, akin, founded⟩ := mirrors.founder found
    rw [known] at founded
    exact ⟨root, deadline, akin, founded, of_decide_eq_true reached⟩
  · rintro ⟨root, deadline, akin, founded, reached⟩
    obtain ⟨second, there, known⟩ := mirrors.founded founded
    rw [← mirrors.alike akin, found] at there
    cases there
    exact ⟨deadline, known, decide_eq_true reached⟩

end Mirrors

theorem mirrors_after (steps : List (Int × TokenStep)) : (empty.after steps).Mirrors (empty.history steps) := by
  induction steps using List.reverseRecOn with
  | nil => exact .empty
  | append_singleton steps timed ih =>
    rw [after_append, history_append]
    exact ih.concat (settle_effect _ timed.1 timed.2)

/-- What a look at a token is to find after a history. -/
structure Tells (history : List TokenEvent) (now : Int) (index : Nat) (outcome : Except StatementError Unit) : Prop where
  cancelled : outcome = .error .cancelled ↔ Cancelled history index
  exceeded : outcome = .error .deadlineExceeded ↔ ¬ Cancelled history index ∧ Due history now index
  live : outcome = .ok () ↔ ¬ Cancelled history index ∧ ¬ Due history now index

theorem tells_check {history : List TokenEvent} {now : Int} {index : Nat} {token : Token}
    (cancelled : token.cancelled = true ↔ Cancelled history index)
    (expired : token.expired = true ↔ Due history now index) : Tells history now index token.check := by
  constructor <;> simp only [← cancelled, ← expired] <;> rcases token with ⟨_ | _, _ | _⟩ <;> simp [Token.check]

theorem settle_check {steps : List (Int × TokenStep)} {index : Nat} (made : Made (empty.history steps) index)
    (now : Int) : ∃ outcome, ((empty.after steps).settle now (.check index)).1 = .ok (.checked outcome) ∧
      Tells (empty.history steps) now index outcome := by
  have mirrors := mirrors_after steps
  have found := List.getElem?_eq_getElem ((mirrors.made index).mp made)
  refine ⟨_, ?_, tells_check (mirrors.cancelled_iff now found) (mirrors.expired_iff now found)⟩
  simp only [settle, step, found]

theorem settle_isCancelled {steps : List (Int × TokenStep)} {index : Nat} (made : Made (empty.history steps) index)
    (now : Int) : ∃ flag, ((empty.after steps).settle now (.isCancelled index)).1 = .ok (.flag flag) ∧
      (flag = true ↔ Cancelled (empty.history steps) index) := by
  have mirrors := mirrors_after steps
  have found := List.getElem?_eq_getElem ((mirrors.made index).mp made)
  refine ⟨_, ?_, mirrors.cancelled_iff now found⟩
  simp only [settle, step, found]

theorem Made.kin {steps : List (Int × TokenStep)} {index other : Nat} (made : Made (empty.history steps) index)
    (akin : Akin (empty.history steps) index other) : Made (empty.history steps) other := by
  have mirrors := mirrors_after steps
  have found := List.getElem?_eq_getElem ((mirrors.made index).mp made)
  rw [mirrors.alike akin] at found
  exact (mirrors.made other).mpr (List.getElem?_eq_some_iff.mp found).1

theorem Tells.failed {history : List TokenEvent} {now : Int} {index : Nat} {outcome : Except StatementError Unit}
    (tells : Tells history now index outcome) :
    (∃ error, outcome = .error error) ↔ Cancelled history index ∨ Due history now index := by
  have live := tells.live
  rw [← not_or] at live
  cases outcome with
  | ok done => exact iff_of_false nofun (live.mp rfl)
  | error error => exact iff_of_true ⟨error, rfl⟩ (not_not.mp fun none => nomatch live.mpr none)

/-- After any steps and at any moment, a token is cancelled exactly when a token of its family was, and a check blames the
deadline of its family exactly when that is reached and none was. So a check that fails on a token fails from then on on
all tokens of its family, also on those that are cloned later. -/
theorem answers_followFamilies (steps : List (Int × TokenStep)) (now : Int) (index : Nat)
    (made : Made (empty.history steps) index) :
    (∃ flag, ((empty.after steps).settle now (.isCancelled index)).1 = .ok (.flag flag) ∧
      (flag = true ↔ Cancelled (empty.history steps) index)) ∧
    ∃ outcome, ((empty.after steps).settle now (.check index)).1 = .ok (.checked outcome) ∧
      Tells (empty.history steps) now index outcome ∧
      ((∃ error, outcome = .error error) → ∀ more later other, now ≤ later →
        Akin (empty.history (steps ++ more)) index other →
        ∃ error, ((empty.after (steps ++ more)).settle later (.check other)).1 = .ok (.checked (.error error))) := by
  refine ⟨settle_isCancelled made now, ?_⟩
  obtain ⟨outcome, answered, tells⟩ := settle_check made now
  refine ⟨outcome, answered, tells, fun failed more later other passed akin => ?_⟩
  have early : empty.history steps <+: empty.history (steps ++ more) := by
    rw [history_append]
    exact List.prefix_append _ _
  obtain ⟨answer, checked, finds⟩ := settle_check ((made.mono early).kin akin) later
  have lasting : Cancelled (empty.history (steps ++ more)) other ∨ Due (empty.history (steps ++ more)) later other :=
    (tells.failed.mp failed).imp (fun cancelled => cancelled.lasts early akin) fun due => due.lasts early passed akin
  obtain ⟨error, rfl⟩ := finds.failed.mpr lasting
  exact ⟨error, checked⟩

/-- A cancel by way of a clone of a clone, which reaches a token that is cloned after it and not the other family. -/
theorem answers_followFamilies_cousins :
    let steps : List (Int × TokenStep) :=
      [(0, .create (some 10) false), (1, .clone 0), (1, .clone 1), (2, .create none false), (3, .cancel 2)]
    (Made (empty.history steps) 0 ∧ Cancelled (empty.history steps) 0) ∧
      (Made (empty.history steps) 3 ∧ ¬ Cancelled (empty.history steps) 3) ∧
      ∀ later, 4 ≤ later → ∃ error,
        ((empty.after (steps ++ [(3, .clone 1)])).settle later (.check 4)).1 = .ok (.checked (.error error)) := by
  intro steps
  have first : Made (empty.history steps) 0 := ⟨_, List.mem_of_getElem? (i := 0) rfl, rfl⟩
  have last : Made (empty.history steps) 3 := ⟨_, List.mem_of_getElem? (i := 3) rfl, rfl⟩
  obtain ⟨-, outcome, answered, tells, lasting⟩ := answers_followFamilies steps 4 0 first
  cases answered
  obtain ⟨⟨flag, asked, alone⟩, -⟩ := answers_followFamilies steps 4 3 last
  cases asked
  refine ⟨⟨first, tells.cancelled.mp rfl⟩, ⟨last, fun cancelled => nomatch alone.mpr cancelled⟩, fun later passed => ?_⟩
  refine lasting ⟨_, rfl⟩ [(3, .clone 1)] later 4 passed (.trans _ 1 _ (.rel _ _ ?_) (.rel _ _ ?_))
  · exact ⟨_, List.mem_of_getElem? (i := 1) rfl, rfl, rfl⟩
  · exact ⟨_, List.mem_of_getElem? (i := 5) rfl, rfl, rfl⟩

end Tokens
end EntityStore
