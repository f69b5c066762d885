import Mathlib.Data.List.TakeWhile
import EntityStore.Logging.Settings

/-! What the settings of the log can be read from: a name of a level in any letter case and an absolute path, both with
any blanks around them. -/

namespace EntityStore.Text.Blank

/-- An inner text that neither begins nor ends with a blank, in a text that has nothing but blanks around it. -/
structure Trims (text inner : String) : Prop where
  around : ∃ front back, (∀ c ∈ front, isBlank c = true) ∧ (∀ c ∈ back, isBlank c = true) ∧
    text.toList = front ++ inner.toList ++ back
  first : ∀ c ∈ inner.toList.head?, isBlank c = false
  last : ∀ c ∈ inner.toList.getLast?, isBlank c = false

theorem dropWhile_first {text : List Char} (first : ∀ c ∈ text.head?, isBlank c = false) :
    text.dropWhile isBlank = text := by
  cases text with
  | nil => rfl
  | cons c rest => exact List.dropWhile_cons_of_neg (by simp [first c rfl])

theorem first_dropWhile (text : List Char) : ∀ c ∈ (text.dropWhile isBlank).head?, isBlank c = false := by
  intro c member
  have stops := List.head?_dropWhile_not isBlank text
  rw [Option.mem_def.mp member] at stops
  exact stops

theorem trimList_around {front inner back : List Char} (before : ∀ c ∈ front, isBlank c = true)
    (after : ∀ c ∈ back, isBlank c = true) (first : ∀ c ∈ inner.head?, isBlank c = false)
    (last : ∀ c ∈ inner.getLast?, isBlank c = false) : trimList (front ++ inner ++ back) = inner := by
  rw [trimList, List.append_assoc, List.dropWhile_append_of_pos before]
  cases inner with
  | nil =>
    rw [List.nil_append, List.dropWhile_eq_nil_iff.mpr after]
    rfl
  | cons c rest =>
    have kept : (c :: rest ++ back).dropWhile isBlank = c :: rest ++ back := dropWhile_first (by simpa using first)
    have turned : (c :: rest).reverse.dropWhile isBlank = (c :: rest).reverse :=
      dropWhile_first (by rwa [List.head?_reverse])
    rw [kept, List.reverse_append, List.dropWhile_append_of_pos (by simpa using after), turned, List.reverse_reverse]

theorem trim_eq_iff {text inner : String} : trim text = inner ↔ Trims text inner := by
  constructor
  · rintro rfl
    let middle := text.toList.dropWhile isBlank
    let back := (middle.reverse.takeWhile isBlank).reverse
    have split : middle = trimList text.toList ++ back := by
      rw [trimList, ← List.reverse_append, List.takeWhile_append_dropWhile, List.reverse_reverse]
    have shown : (trim text).toList = trimList text.toList := String.toList_ofList
    refine ⟨⟨text.toList.takeWhile isBlank, back, fun c => List.mem_takeWhile_imp, fun c member => ?_, ?_⟩, ?_, ?_⟩
    · exact List.mem_takeWhile_imp (List.mem_reverse.mp member)
    · rw [shown, List.append_assoc, ← split, List.takeWhile_append_dropWhile]
    · intro c member
      apply first_dropWhile text.toList
      change c ∈ middle.head?
      rw [shown] at member
      rw [split, List.head?_append, Option.mem_def.mp member]
      rfl
    · intro c member
      rw [shown, trimList, List.getLast?_reverse] at member
      exact first_dropWhile _ c member
  · rintro ⟨⟨front, back, before, after, split⟩, first, last⟩
    rw [trim, split, trimList_around before after first last, String.ofList_toList]

end EntityStore.Text.Blank

namespace EntityStore

/-- The words for a level in lower case. -/
def Level.names : Level → List String
  | .warn => ["warn", "warning"]
  | .trace => ["trace"]
  | .debug => ["debug"]
  | .info => ["info"]
  | .error => ["error"]

namespace Logging
open Text.Blank

theorem level?_eq_some {word : String} {level : Level} : level? word = some level ↔ word ∈ level.names := by
  unfold level?
  split
  next other =>
    subst other
    cases level <;> decide
  next other =>
    constructor
    · intro found
      have same := List.find?_some found
      rw [beq_iff_eq] at same
      subst same
      cases level <;> decide
    · intro named
      have same : level.word = word := by
        cases level with
        | warn => exact ((List.mem_cons.mp named).resolve_right fun last => other (List.mem_singleton.mp last)).symm
        | trace | debug | info | error => exact (List.mem_singleton.mp named).symm
      subst same
      cases level <;> rfl

theorem parseDirectory_eq_ok {directory path : String} :
    parseDirectory directory = .ok path ↔ Trims directory path ∧ path.toList.head? = some '/' := by
  rw [← trim_eq_iff, parseDirectory]
  split
  next none =>
    refine iff_of_false nofun ?_
    rintro ⟨rfl, absolute⟩
    rw [String.isEmpty_iff] at none
    rw [none] at absolute
    cases absolute
  next some =>
    split
    next absolute =>
      constructor
      · intro same
        cases same
        exact ⟨rfl, absolute⟩
      · rintro ⟨rfl, -⟩
        rfl
    next relative =>
      refine iff_of_false nofun ?_
      rintro ⟨rfl, absolute⟩
      exact relative absolute

/-- What a level and a directory are read as. -/
structure Settings.ReadFrom (settings : Settings) (level directory : String) : Prop where
  level : ∃ word, Trims level word ∧ lower word ∈ settings.level.names
  directory : Trims directory settings.directory
  absolute : settings.directory.toList.head? = some '/'

theorem Settings.parse_eq_ok {settings : Settings} {level directory : String} :
    Settings.parse level directory = .ok settings ↔ settings.ReadFrom level directory := by
  have levels : (∃ word, Trims level word ∧ lower word ∈ settings.level.names) ↔
      level? (lower (trim level)) = some settings.level := by
    simp only [← trim_eq_iff, level?_eq_some, exists_eq_left']
  constructor
  · intro read
    unfold parse at read
    dsimp only at read
    split at read
    · cases read
    next found =>
      rcases parsed : parseDirectory directory with error | path
      · rw [parsed] at read
        cases read
      · rw [parsed] at read
        cases read
        obtain ⟨trims, absolute⟩ := parseDirectory_eq_ok.mp parsed
        exact ⟨levels.mpr found, trims, absolute⟩
  · intro read
    unfold parse
    dsimp only
    rw [levels.mp read.level, parseDirectory_eq_ok.mpr ⟨read.directory, read.absolute⟩]
    rfl

end Logging
end EntityStore
