import EntityStore.Proofs.Protocol

/-! What calls tell the log. A call that succeeds logs one line, after its commit, and a call that fails logs nothing.
The line names the kind of the call and the table, so nothing can be learned from it of ids, values, stored rows or
what the store answered on the way. -/

namespace EntityStore
variable {E σ : Type}

/-- What the log may tell of a call. Of an update it tells whether there is a mask, but not what is in it. -/
inductive CallKind where
  | create
  | read
  | update (masked : Bool)
  | delete
  deriving DecidableEq, Repr

namespace CallKind

def word : CallKind → String
  | .create => "create"
  | .read => "read"
  | .update _ => "update"
  | .delete => "delete"

def suffix : CallKind → String
  | .update masked => " masked=" ++ if masked then "true" else "false"
  | .create | .read | .delete => ""

def event (table : String) : CallKind → Event
  | .create => .created table
  | .read => .read table
  | .update masked => .updated table masked
  | .delete => .deleted table

theorem event_message (table : String) (kind : CallKind) :
    (kind.event table).message =
      "event=entity_" ++ kind.word ++ " module=repo status=ok table=" ++ table ++ kind.suffix ++ " duration_ms=_" := by
  cases kind with
  | update masked =>
    have joined (first table flag value last : String) :
        first ++ (table ++ flag ++ value) ++ last = first ++ table ++ (flag ++ value) ++ last := by
      simp only [String.append_assoc]
    exact joined ..
  | create | read | delete =>
    have joined (first last : String) : first ++ last = first ++ "" ++ last := by rw [String.append_empty]
    exact joined ..

end CallKind

def Call.kind : Call E → CallKind
  | .create _ => .create
  | .read _ => .read
  | .update _ mask => .update !mask.fields.isEmpty
  | .delete _ => .delete

namespace Mapping

/-- What a call of a kind on a table logs, given its exchanges with the store and its outcome. -/
structure Discreet (table : String) (kind : CallKind) (exchanges : List Exchange)
    (outcome : Except CrudError (Reply E)) (events : List Event) : Prop where
  silent (error : CrudError) (failed : outcome = .error error) : events = []
  once (reply : Reply E) (succeeded : outcome = .ok reply) : ∃ event, events = [event] ∧ event.level = .debug ∧
    event.target = "tablecrud_core::repo::mapper" ∧
    event.message =
      "event=entity_" ++ kind.word ++ " module=repo status=ok table=" ++ table ++ kind.suffix ++ " duration_ms=_"
  /-- There is something to log exactly after a commit that succeeds. -/
  committed : events ≠ [] ↔ ∃ before, exchanges = before ++ [⟨.commit, .ok ()⟩]

theorem event_eq (mapping : Mapping E) (call : Call E) : mapping.event call = call.kind.event mapping.schema.table := by
  cases call <;> rfl

theorem perform_told (mapping : Mapping E) (store : Store σ) (call : Call E) (state : σ) :
    (mapping.perform store call state).2.1 =
      if (mapping.perform store call state).1.isOk then [call.kind.event mapping.schema.table] else [] := by
  rw [perform_events, (mapping.perform_eq store call state).1, ← mapping.event_eq]
  cases ((mapping.operation call).result store state).1 <;> rfl

theorem Conducted.isOk_iff {mapping : Mapping E} {call : Call E} {exchanges : List Exchange}
    {outcome : Except CrudError (Reply E)} (conducted : mapping.Conducted call exchanges outcome) :
    outcome.isOk = true ↔ ∃ before, exchanges = before ++ [⟨.commit, .ok ()⟩] := by
  cases conducted with
  | refused error =>
    refine iff_of_false nofun ?_
    rintro ⟨before, same⟩
    have split : [] ++ [⟨.begin, .error error⟩] = before ++ [(⟨.commit, .ok ()⟩ : Exchange)] := same
    cases List.append_inj_right' split rfl
  | @undone first stage failing primary answer inner other surveyed failed =>
    refine iff_of_false nofun ?_
    rintro ⟨before, same⟩
    have split : (⟨.begin, .ok ()⟩ :: first ++ [failing]) ++ [⟨.rollback, answer⟩] = before ++ [⟨.commit, .ok ()⟩] := by
      rw [← same]
      simp
    cases List.append_inj_right' split rfl
  | @committed before stage reply inner surveyed told =>
    exact iff_of_true rfl ⟨⟨.begin, .ok ()⟩ :: before, rfl⟩

/-- Whatever the store holds and answers, a call logs what its kind, its table and its success say and no more, so any
two calls that agree on these log the same. -/
theorem perform_discreet (mapping : Mapping E) (store : Store σ) (call : Call E) (state : σ) :
    Discreet mapping.schema.table call.kind (mapping.exchanges store call state) (mapping.perform store call state).1
        (mapping.perform store call state).2.1 ∧
      ∀ {F τ : Type} (other : Mapping F) (second : Store τ) (again : Call F) (start : τ),
        other.schema.table = mapping.schema.table → again.kind = call.kind →
        (other.perform second again start).1.isOk = (mapping.perform store call state).1.isOk →
        (other.perform second again start).2.1 = (mapping.perform store call state).2.1 := by
  have told := mapping.perform_told store call state
  refine ⟨⟨fun error failed => ?_, fun reply succeeded => ?_, ?_⟩, fun other second again start table kind success => ?_⟩
  · rw [told, failed]
    rfl
  · rw [succeeded] at told
    refine ⟨_, told, ?_, ?_, CallKind.event_message _ _⟩
    · cases call <;> rfl
    · cases call <;> rfl
  · have conducted := mapping.conducted store call state
    rw [← (mapping.perform_eq store call state).1] at conducted
    rw [exchanges, ← conducted.isOk_iff, told]
    cases (mapping.perform store call state).1 <;> simp [Except.isOk, Except.toBool]
  · rw [told, other.perform_told second again start, table, kind, success]

end Mapping
end EntityStore
