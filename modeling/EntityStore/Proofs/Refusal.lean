import Mathlib.Logic.Basic

/-! Reasons for refusing. What is done in several parts, each with reasons of its own, is refused for the first reason of
all, provided that the reasons do not depend on what came out of the parts before. -/

namespace EntityStore
variable {ε α β ι : Type}

/-- Why there is no result. -/
def refusal : Except ε α → Option ε
  | .ok _ => none
  | .error error => some error

theorem refusal_eq_some {outcome : Except ε α} {error : ε} : refusal outcome = some error ↔ outcome = .error error := by
  cases outcome <;> simp [refusal]

theorem refusal_eq_none {outcome : Except ε α} : refusal outcome = none ↔ ∃ value, outcome = .ok value := by
  cases outcome <;> simp [refusal]

theorem refusal_eq_none_unit {outcome : Except ε Unit} : refusal outcome = none ↔ outcome = .ok () := by
  cases outcome <;> simp [refusal]

theorem bind_eq_ok {first : Except ε α} {next : α → Except ε β} {result : β} :
    (first >>= next) = .ok result ↔ ∃ value, first = .ok value ∧ next value = .ok result := by
  cases first with
  | error error => simp [bind, Except.bind]
  | ok value => simp [bind, Except.bind]

theorem refusal_map (outcome : Except ε α) (f : α → β) : refusal (do return f (← outcome)) = refusal outcome := by
  cases outcome <;> rfl

section Reasons
variable {reason : ι → Option ε} {first : Except ε α} {next : α → Except ε β}

theorem refusal_bind {before after : List ι} (here : refusal first = before.findSome? reason)
    (later : ∀ value, refusal (next value) = after.findSome? reason) :
    refusal (first >>= next) = (before ++ after).findSome? reason := by
  rw [List.findSome?_append, ← here]
  cases first with
  | error error => rfl
  | ok value => exact later value

theorem refusal_bind_one {place : ι} {places : List ι} (here : refusal first = reason place)
    (later : ∀ value, refusal (next value) = places.findSome? reason) :
    refusal (first >>= next) = (place :: places).findSome? reason :=
  refusal_bind (here.trans List.findSome?_singleton.symm) later

theorem refusal_forM {check : α → Except ε PUnit} {places : α → List ι} (items : List α)
    (each : ∀ item, refusal (check item) = (places item).findSome? reason) :
    refusal (items.forM check) = (items.flatMap places).findSome? reason := by
  induction items with
  | nil => rfl
  | cons item rest ih =>
    rw [List.flatMap_cons]
    exact refusal_bind (each item) fun _ => ih

end Reasons

/-- The first number below a count that gives anything. -/
theorem findSome?_range {reason : Nat → Option ε} {count : Nat} {found : ε} :
    (List.range count).findSome? reason = some found ↔
      ∃ index < count, reason index = some found ∧ ∀ earlier < index, reason earlier = none := by
  induction count with
  | zero => simp
  | succ count ih =>
    rw [List.range_succ, List.findSome?_append, Option.or_eq_some_iff, ih, List.findSome?_eq_none_iff]
    simp only [List.mem_range, List.findSome?_singleton]
    constructor
    · rintro (⟨index, inside, reported, none⟩ | ⟨none, reported⟩)
      · exact ⟨index, Nat.lt_succ_of_lt inside, reported, none⟩
      · exact ⟨count, Nat.lt_succ_self count, reported, none⟩
    · rintro ⟨index, inside, reported, none⟩
      rcases Nat.lt_succ_iff_lt_or_eq.mp inside with inside | rfl
      · exact .inl ⟨index, inside, reported, none⟩
      · exact .inr ⟨none, reported⟩

end EntityStore
