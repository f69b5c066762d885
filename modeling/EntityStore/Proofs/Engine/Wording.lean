import EntityStore.Engine.Connection

/-! Texts that the engine takes as they are. Where a text has no zero characters and its double quotes come in pairs, it
ends outside any name, so a statement on proper names can be refused for its text only when it has too many
parameters. -/

namespace EntityStore
open Text.Quoted

namespace Text.Quoted

/-- Outside names a reader has met an even number of quotes, inside a name an odd one. -/
theorem unfinished?_eq_none (offset : Nat) (found : Option (Nat × List Char)) (text : List Char) :
    unfinished? offset found text = none ↔ text.count '"' % 2 = if found.isSome then 1 else 0 := by
  fun_induction unfinished? offset found text with
  | case1 offset found => cases found <;> simp
  | case2 offset c rest ih =>
    rw [ih]
    by_cases quote : c = '"'
    · subst quote
      simp only [List.count_cons_self, if_true, Option.isSome_some, Option.isSome_none, Bool.false_eq_true, if_false]
      omega
    · simp [List.count_cons_of_ne quote, quote]
  | case3 offset start read rest ih =>
    rw [ih]
    simp only [List.count_cons_self, Option.isSome_some, if_true]
    omega
  | case4 offset start read c rest other ih =>
    rw [ih]
    by_cases quote : c = '"'
    · subst quote
      simp only [List.count_cons_self, if_true, Option.isSome_some, Option.isSome_none, Bool.false_eq_true, if_false]
      omega
    · simp [List.count_cons_of_ne quote, quote]

theorem count_escape (name : List Char) : (escape name).count '"' = 2 * name.count '"' := by
  induction name with
  | nil => rfl
  | cons c rest ih =>
    by_cases quote : c = '"'
    · subst quote
      simp only [escape, if_true, List.count_cons_self, ih]
      omega
    · simp [escape, quote, List.count_cons_of_ne quote, ih]

theorem mem_escape {name : List Char} {c : Char} : c ∈ escape name ↔ c ∈ name := by
  induction name with
  | nil => rfl
  | cons first rest ih => by_cases quote : first = '"' <;> simp [escape, quote, ih]

/-- How many marks stand outside names. -/
def marks : Bool → List Char → Nat
  | _, [] => 0
  | quoted, c :: rest =>
      if c = '"' then marks (!quoted) rest
      else if c = '?' ∧ !quoted then marks quoted rest + 1
      else marks quoted rest

theorem markOffset?_eq_none (quoted : Bool) (skip offset : Nat) (text : List Char) :
    markOffset? quoted skip offset text = none ↔ marks quoted text ≤ skip := by
  induction text generalizing quoted skip offset with
  | nil => simp [markOffset?, marks]
  | cons c rest ih =>
    unfold markOffset? marks
    by_cases quote : c = '"'
    · rw [if_pos quote, if_pos quote, ih]
    rw [if_neg quote, if_neg quote]
    by_cases mark : c = '?' ∧ (!quoted) = true
    · rw [if_pos mark, if_pos mark]
      cases skip with
      | zero => simp
      | succ skip => rw [ih, Nat.add_le_add_iff_right]
    · rw [if_neg mark, if_neg mark, ih]

theorem marks_append {first : List Char} (rest : List Char) (quoted : Bool) :
    marks quoted (first ++ rest) = marks quoted first + marks (quoted ^^ decide (first.count '"' % 2 = 1)) rest := by
  induction first generalizing quoted with
  | nil => simp [marks]
  | cons c first ih =>
    rw [List.cons_append, marks, marks]
    by_cases quote : c = '"'
    · subst quote
      have turned : ((!quoted) ^^ decide (first.count '"' % 2 = 1)) =
          (quoted ^^ decide (('"' :: first).count '"' % 2 = 1)) := by
        rw [List.count_cons_self]
        rcases Nat.mod_two_eq_zero_or_one (first.count '"') with even | odd
        · cases quoted <;> simp [Nat.add_mod, even]
        · cases quoted <;> simp [Nat.add_mod, odd]
      simp only [if_true, ih, turned]
    · rw [if_neg quote, if_neg quote, List.count_cons_of_ne quote]
      split
      · rw [ih]
        omega
      · exact ih _

end Text.Quoted

namespace Engine

/-- No zero character, and quotes in pairs. -/
structure WellQuoted (text : String) : Prop where
  zeroFree : '\x00' ∉ text.toList
  paired : text.toList.count '"' % 2 = 0

namespace WellQuoted

theorem whole {text : String} (quoted : WellQuoted text) : text.toList.takeWhile (· != '\x00') = text.toList := by
  have kept : ∀ c ∈ text.toList, (c != '\x00') = true := by
    intro c member
    rw [bne_iff_ne]
    rintro rfl
    exact quoted.zeroFree member
  rw [← List.append_nil text.toList, List.takeWhile_append_of_pos kept]
  rfl

theorem append {first second : String} (early : WellQuoted first) (late : WellQuoted second) :
    WellQuoted (first ++ second) := by
  constructor
  · simp [early.zeroFree, late.zeroFree]
  · have one := early.paired
    have two := late.paired
    rw [String.toList_append, List.count_append]
    omega

theorem quote {name : String} (zeroFree : '\x00' ∉ name.toList) : WellQuoted (quote name) := by
  constructor
  · simp [Text.Quoted.quote, quoteList, mem_escape, zeroFree]
  · simp only [Text.Quoted.quote, quoteList, String.toList_ofList, List.count_cons_self, List.count_append,
      count_escape]
    simp only [List.count_nil]
    omega

theorem commaList {items : List String} (all : ∀ item ∈ items, WellQuoted item) :
    WellQuoted (Statement.commaList items) := by
  unfold Statement.commaList
  induction items with
  | nil => exact ⟨by simp, by simp⟩
  | cons first rest ih =>
    have here := all first List.mem_cons_self
    have later := ih fun item member => all item (List.mem_cons_of_mem _ member)
    cases rest with
    | nil => simpa using here
    | cons second rest =>
      rw [String.intercalate_cons_cons]
      exact (here.append ⟨by decide, by decide⟩).append later

end WellQuoted

namespace WellQuoted
variable {table key : String} {columns : List String}

theorem quoted (named : ∀ name ∈ columns, '\x00' ∉ name.toList) :
    WellQuoted (Statement.commaList (columns.map Text.Quoted.quote)) := by
  apply commaList
  intro item member
  obtain ⟨name, inside, rfl⟩ := List.mem_map.mp member
  exact quote (named name inside)

theorem tuple (width : Nat) : WellQuoted (Statement.tuple width) := by
  unfold Statement.tuple
  refine append (append ?_ (commaList ?_)) ?_
  · exact ⟨by decide, by decide⟩
  · intro item member
    rw [List.eq_of_mem_replicate member]
    exact ⟨by decide, by decide⟩
  · exact ⟨by decide, by decide⟩

theorem opening (named : ∀ name ∈ table :: columns, '\x00' ∉ name.toList) :
    WellQuoted (Statement.opening table columns) := by
  unfold Statement.opening
  refine append (append (append (append ?_ (quote (named table List.mem_cons_self))) ?_) (quoted ?_)) ?_
  · exact ⟨by decide, by decide⟩
  · exact ⟨by decide, by decide⟩
  · exact fun name member => named name (List.mem_cons_of_mem _ member)
  · exact ⟨by decide, by decide⟩

theorem keyed (tableNamed : '\x00' ∉ table.toList) (keyNamed : '\x00' ∉ key.toList) :
    WellQuoted (Statement.keyed table key) := by
  unfold Statement.keyed
  refine append (append (append (quote tableNamed) ?_) (quote keyNamed)) ?_
  · exact ⟨by decide, by decide⟩
  · exact ⟨by decide, by decide⟩

theorem assignment {column : String} (named : '\x00' ∉ column.toList) :
    WellQuoted (Statement.assignment column) := by
  unfold Statement.assignment
  refine append (append (append (quote named) ?_) (quote named)) ?_
  · exact ⟨by decide, by decide⟩
  · exact ⟨by decide, by decide⟩

end WellQuoted
end Engine

namespace Statement
open Engine

/-- The names that a statement quotes. -/
def names : Statement → List String
  | .insert table columns | .insertRows table columns _ => table :: columns
  | .select table columns key order => table :: key :: (columns ++ order.toList)
  | .update table columns key => table :: key :: columns
  | .probe table key | .delete table key => [table, key]

theorem wellQuoted_text {statement : Statement} (named : ∀ name ∈ statement.names, '\x00' ∉ name.toList) :
    WellQuoted statement.text := by
  cases statement with
  | insert table columns =>
    refine .append (.append (.opening named) (.tuple _)) ?_
    exact ⟨by decide, by decide⟩
  | insertRows table columns more =>
    refine .append (.opening named) (.commaList fun item member => ?_)
    rw [List.eq_of_mem_replicate member]
    exact .tuple _
  | probe table key =>
    refine .append (.append ?_ (.keyed (named table (by simp [names])) (named key (by simp [names])))) ?_
    · exact ⟨by decide, by decide⟩
    · exact ⟨by decide, by decide⟩
  | delete table key =>
    refine .append (.append ?_ (.keyed (named table (by simp [names])) (named key (by simp [names])))) ?_
    · exact ⟨by decide, by decide⟩
    · exact ⟨by decide, by decide⟩
  | select table columns key order =>
    have chosen := WellQuoted.keyed (named table (by simp [names])) (named key (by simp [names]))
    refine .append (.append (.append (.append (.append ?_ (.quoted ?_)) ?_) chosen) ?_) ?_
    · exact ⟨by decide, by decide⟩
    · exact fun name member => named name (by simp [names, member])
    · exact ⟨by decide, by decide⟩
    · cases order with
      | none => exact ⟨by decide, by decide⟩
      | some column =>
        refine .append (.append ?_ (.quote (named column (by simp [names])))) ?_
        · exact ⟨by decide, by decide⟩
        · exact ⟨by decide, by decide⟩
    · exact ⟨by decide, by decide⟩
  | update table columns key =>
    have start := WellQuoted.quote (named table (by simp [names]))
    have last := WellQuoted.quote (named key (by simp [names]))
    refine .append (.append (.append (.append (.append (.append ?_ start) ?_) (.commaList ?_)) ?_) last) ?_
    · exact ⟨by decide, by decide⟩
    · exact ⟨by decide, by decide⟩
    · intro item member
      obtain ⟨name, inside, rfl⟩ := List.mem_map.mp member
      exact .assignment (named name (by simp [names, inside]))
    · exact ⟨by decide, by decide⟩
    · exact ⟨by decide, by decide⟩

end Statement

namespace Engine

theorem requireText_ok {statement : Statement} (named : ∀ name ∈ statement.names, '\x00' ∉ name.toList)
    (fits : statement.arity ≤ variableLimit) : requireText statement.text statement.arity = .ok () := by
  have quoted := Statement.wellQuoted_text named
  have finished := (unfinished?_eq_none 0 none statement.text.toList).mpr quoted.paired
  simp only [requireText, quoted.whole, finished, if_pos fits]

theorem WellQuoted.marks_append {first second : String} (early : WellQuoted first) :
    marks false (first ++ second).toList = marks false first.toList + marks false second.toList := by
  rw [String.toList_append, Text.Quoted.marks_append, early.paired]
  rfl

theorem marks_commaList {item : String} (quoted : WellQuoted item) (count : Nat) :
    marks false (Statement.commaList (List.replicate count item)).toList = count * marks false item.toList := by
  unfold Statement.commaList
  induction count with
  | zero => simp [marks]
  | succ count ih =>
    cases count with
    | zero => simp
    | succ count =>
      have comma : WellQuoted ", " := ⟨by decide, by decide⟩
      rw [List.replicate_succ] at ih
      rw [List.replicate_succ, List.replicate_succ, String.intercalate_cons_cons,
        (quoted.append comma).marks_append, quoted.marks_append, ih]
      have none : marks false ", ".toList = 0 := by decide
      rw [none, Nat.add_zero, Nat.add_comm (count + 1) 1, Nat.add_mul 1, Nat.one_mul]

theorem marks_tuple (width : Nat) : marks false (Statement.tuple width).toList = width := by
  have left : WellQuoted "(" := ⟨by decide, by decide⟩
  have mark : WellQuoted "?" := ⟨by decide, by decide⟩
  have inner : WellQuoted (Statement.commaList (List.replicate width "?")) :=
    .commaList fun item member => by rw [List.eq_of_mem_replicate member]; exact mark
  have one : marks false "?".toList = 1 := by decide
  have none : marks false "(".toList = 0 := by decide
  have nothing : marks false ")".toList = 0 := by decide
  unfold Statement.tuple
  rw [(left.append inner).marks_append, left.marks_append, marks_commaList mark, one, none, nothing]
  omega

/-- The marks of an insert of rows are counted, so one with too many parameters is refused. -/
theorem requireText_excess {table : String} {columns : List String} {more : Nat}
    (named : ∀ name ∈ table :: columns, '\x00' ∉ name.toList)
    (excess : variableLimit < (Statement.insertRows table columns more).arity) :
    ∃ offset, requireText (Statement.insertRows table columns more).text (Statement.insertRows table columns more).arity =
      .error (.located .tooManyVariables (Statement.insertRows table columns more).text offset) := by
  have quoted : WellQuoted (Statement.insertRows table columns more).text := Statement.wellQuoted_text named
  have counted : (Statement.insertRows table columns more).arity ≤
      marks false (Statement.insertRows table columns more).text.toList := by
    have tuples := marks_commaList (WellQuoted.tuple columns.length) (more + 1)
    rw [marks_tuple] at tuples
    change (more + 1) * columns.length ≤ marks false (_ ++ _ : String).toList
    rw [(WellQuoted.opening named).marks_append, tuples]
    omega
  have found : markOffset? false variableLimit 0 (Statement.insertRows table columns more).text.toList ≠ none := by
    intro none
    have few := (markOffset?_eq_none _ _ _ _).mp none
    omega
  obtain ⟨offset, found⟩ := Option.ne_none_iff_exists'.mp found
  refine ⟨offset, ?_⟩
  simp only [requireText, quoted.whole, if_neg (Nat.not_le.mpr excess), found]

theorem arity_insertRows {table : String} {columns : List String} {more : Nat}
    (named : ∀ name ∈ table :: columns, '\x00' ∉ name.toList)
    (worded : requireText (Statement.insertRows table columns more).text (Statement.insertRows table columns more).arity =
      .ok ()) : (Statement.insertRows table columns more).arity ≤ variableLimit := by
  refine Nat.le_of_not_lt fun excess => ?_
  obtain ⟨offset, refused⟩ := requireText_excess named excess
  rw [refused] at worded
  cases worded

end Engine
end EntityStore
