import EntityStore.Proofs.Engine.Wording
import EntityStore.Proofs.Reader

/-! What statements ask for. The meaning of a statement is read off its text and its parameters alone, and every
parameter comes out beside the name of the column that it is for. -/

namespace EntityStore
open Text.Quoted

/-- What a statement does to a table. Cells and keys are columns with values, and a change is a column with the flag
that chooses it and the value it then takes. -/
inductive Meaning where
  | insert (table : String) (rows : List (List (String × Value)))
  | select (table : String) (columns : List String) (key : String × Value) (order : Option String)
  | probe (table : String) (key : String × Value)
  | update (table : String) (changes : List (String × Value × Value)) (key : String × Value)
  | delete (table : String) (key : String × Value)
  deriving DecidableEq

namespace Reader

def cells (columns : List String) : Reader (List (String × Value)) := do
  word "("
  let values ← list mark
  if values.length = columns.length then
    word ")"
    return columns.zip values
  else failure

def keyed : Reader (String × String × Value) := do
  let table ← name
  word " WHERE "
  let key ← name
  word " = "
  let value ← mark
  return (table, key, value)

/-- A change keeps the column that it is for where the flag does not choose it. -/
def change : Reader (String × Value × Value) := do
  let column ← name
  word " = CASE WHEN "
  let flag ← mark
  word " THEN "
  let value ← mark
  word " ELSE "
  let kept ← name
  if kept = column then
    word " END"
    return (column, flag, value)
  else failure

def insertion : Reader Meaning := do
  word "INSERT INTO "
  let table ← name
  word " ("
  let columns ← list name
  word ") VALUES "
  let rows ← list (cells columns)
  return .insert table rows

def selection : Reader Meaning := do
  word "SELECT "
  let columns ← list name
  word " FROM "
  let (table, key) ← keyed
  (do
    word " ORDER BY "
    let order ← name
    word " ASC"
    return .select table columns key (some order)) <|> return .select table columns key none

def probing : Reader Meaning := do
  word "SELECT NULL FROM "
  let (table, key) ← keyed
  return .probe table key

def updating : Reader Meaning := do
  word "UPDATE "
  let table ← name
  word " SET "
  let changes ← list change
  word " WHERE "
  let key ← name
  word " = "
  let value ← mark
  return .update table changes (key, value)

def deletion : Reader Meaning := do
  word "DELETE FROM "
  let (table, key) ← keyed
  return .delete table key

def meaning : Reader Meaning := insertion <|> selection <|> probing <|> updating <|> deletion

end Reader

/-- The meaning of a text up to its first zero character, where it uses up the tokens and the parameters. -/
def Meaning.of? (text : String) (parameters : List Value) : Option Meaning :=
  match Reader.meaning (tokens .outside (text.toList.takeWhile (· != '\x00')), parameters) with
  | some (meaning, [], []) | some (meaning, [.other ';'], []) => some meaning
  | _ => none

namespace Reader
variable {after : Char → Prop} {table key : String} {columns : List String} {value : Value}

theorem takes_names (nonempty : columns ≠ []) :
    (list name).Takes Ends (Statement.commaList (columns.map quote)) [] columns := by
  have comma : Closes ',' := by decide
  have taken : (list name).Takes Ends (Statement.commaList (columns.map quote)) (columns.flatMap fun _ => [])
      (columns.map id) :=
    takes_list comma (fun _ ends => ends.1) (fun _ ends => ends) (fun column _ => takes_name column) nonempty
  rw [List.map_id, List.flatMap_eq_nil_iff.mpr fun _ _ => rfl] at taken
  exact taken

theorem takes_marks {values : List Value} (nonempty : values ≠ []) :
    (list mark).Takes Ends (Statement.commaList (List.replicate values.length "?")) values values := by
  have comma : Closes ',' := by decide
  have taken : (list mark).Takes Ends (Statement.commaList (values.map fun _ => "?")) (values.flatMap fun value => [value])
      (values.map id) :=
    takes_list comma (fun _ ends => ends.1) (fun _ ends => ends) (fun value _ => takes_mark value) nonempty
  rw [List.map_id, List.map_const', List.flatMap_singleton'] at taken
  exact taken

theorem takes_cells {values : List Value} (same : values.length = columns.length) (nonempty : columns ≠ []) :
    (cells columns).Takes after (Statement.tuple columns.length) values (columns.zip values) := by
  have filled : values ≠ [] := by
    rintro rfl
    exact nonempty (List.length_eq_zero_iff.mp same.symm)
  rw [Statement.tuple, String.append_assoc, ← same]
  refine takes_word_bind (by decide) ?_
  refine (takes_marks filled).bind_nil ?_ (alone rfl (by decide))
  rw [if_pos same]
  exact (takes_word ")" (by decide)).map _

theorem takes_keyed (table key : String) (value : Value) :
    keyed.Takes after (Statement.keyed table key) [value] (table, key, value) := by
  have split : Statement.keyed table key = quote table ++ (" WHERE " ++ (quote key ++ (" = " ++ "?"))) := by
    rw [Statement.keyed, String.append_assoc, String.append_assoc]
    rfl
  rw [split]
  refine takes_name_bind (by decide) ?_
  refine takes_name_bind (by decide) ?_
  exact (takes_mark value).map _

theorem takes_change (column : String) (flag value : Value) :
    change.Takes after (Statement.assignment column) [flag, value] (column, flag, value) := by
  have split : Statement.assignment column = quote column ++ (" = CASE WHEN " ++ ("?" ++ (" THEN " ++ ("?" ++
      (" ELSE " ++ (quote column ++ " END")))))) := by
    rw [Statement.assignment, String.append_assoc, String.append_assoc]
    rfl
  rw [split]
  refine takes_name_bind (by decide) (takes_mark_bind ?_)
  refine takes_word_bind (by decide) (takes_mark_bind ?_)
  refine takes_word_bind (by decide) ?_
  refine (takes_name column).bind ?_ (alone rfl (by decide))
  rw [if_pos rfl]
  exact (takes_word " END" (by decide)).map _

theorem takes_insertion {rows : List (List Value)} (nonempty : columns ≠ []) (filled : rows ≠ [])
    (same : ∀ row ∈ rows, row.length = columns.length) :
    insertion.Takes (· = ';')
      (Statement.opening table columns ++ Statement.commaList (rows.map fun _ => Statement.tuple columns.length))
      rows.flatten (.insert table (rows.map columns.zip)) := by
  have tuples : (list (cells columns)).Takes (· = ';')
      (Statement.commaList (rows.map fun _ => Statement.tuple columns.length)) (rows.flatMap fun row => row)
      (rows.map columns.zip) := by
    have comma : Closes ',' := by decide
    refine takes_list comma ?_ ?_ (fun row member => takes_cells (same row member) nonempty) filled
    · rintro c rfl
      decide
    · rintro c rfl
      decide
  rw [List.flatMap_id'] at tuples
  rw [Statement.opening, String.append_assoc, String.append_assoc, String.append_assoc, String.append_assoc]
  refine takes_word_bind (by decide) ?_
  refine takes_name_bind (by decide) ?_
  refine (takes_names nonempty).bind ?_ (starting rfl (by decide))
  refine takes_word_bind (by decide) ?_
  exact tuples.map _

theorem takes_probing (table key : String) (value : Value) :
    probing.Takes after ("SELECT NULL FROM " ++ Statement.keyed table key) [value] (.probe table (key, value)) :=
  takes_word_bind (by decide) ((takes_keyed table key value).map _)

theorem takes_deletion (table key : String) (value : Value) :
    deletion.Takes after ("DELETE FROM " ++ Statement.keyed table key) [value] (.delete table (key, value)) :=
  takes_word_bind (by decide) ((takes_keyed table key value).map _)

theorem takes_selection (nonempty : columns ≠ []) (table key : String) (value : Value) :
    selection.Takes (· = ';')
      ("SELECT " ++ (Statement.commaList (columns.map quote) ++ (" FROM " ++ Statement.keyed table key))) [value]
      (.select table columns (key, value) none) := by
  refine takes_word_bind (by decide) ?_
  refine (takes_names nonempty).bind ?_ (starting rfl (by decide))
  refine takes_word_bind (by decide) ?_
  have keyed : keyed.Takes (fun _ => True) (Statement.keyed table key) [value] (table, key, value) :=
    takes_keyed table key value
  refine keyed.without (fun _ _ => trivial) fun rest more ends => ?_
  have missing : word " ORDER BY " (tokens .outside rest, more) = none := by
    refine word_missing rfl (fun c first => ?_) more
    rw [ends c first]
    decide
  change (word " ORDER BY " (tokens .outside rest, more)).bind _ = none
  rw [missing]
  rfl

theorem takes_sorted (nonempty : columns ≠ []) (table key order : String) (value : Value) :
    selection.Takes after ("SELECT " ++ (Statement.commaList (columns.map quote) ++ (" FROM " ++
      (Statement.keyed table key ++ (" ORDER BY " ++ (quote order ++ " ASC"))))))
      [value] (.select table columns (key, value) (some order)) := by
  refine takes_word_bind (by decide) ?_
  refine (takes_names nonempty).bind ?_ (starting rfl (by decide))
  refine takes_word_bind (by decide) ?_
  have keyed : keyed.Takes (fun _ => True) (Statement.keyed table key) [value] (table, key, value) :=
    takes_keyed table key value
  refine keyed.bind_nil (Takes.orElse ?_) fun _ _ => trivial
  refine takes_word_bind (by decide) ?_
  refine (takes_name order).bind ?_ (alone rfl (by decide))
  exact (takes_word " ASC" (by decide)).map _

theorem takes_updating {changes : List (String × Value × Value)} (nonempty : changes ≠ []) (table key : String)
    (value : Value) :
    updating.Takes after ("UPDATE " ++ (quote table ++ (" SET " ++
      (Statement.commaList (changes.map fun change => Statement.assignment change.1) ++
        (" WHERE " ++ (quote key ++ (" = " ++ "?")))))))
      (changes.flatMap (fun change => [change.2.1, change.2.2]) ++ [value]) (.update table changes (key, value)) := by
  have listed : (list change).Takes Ends (Statement.commaList (changes.map fun change => Statement.assignment change.1))
      (changes.flatMap fun change => [change.2.1, change.2.2]) (changes.map id) := by
    have comma : Closes ',' := by decide
    exact takes_list comma (fun _ ends => ends.1) (fun _ ends => ends)
      (fun change _ => takes_change change.1 change.2.1 change.2.2) nonempty
  rw [List.map_id] at listed
  refine takes_word_bind (by decide) ?_
  refine takes_name_bind (by decide) ?_
  refine listed.bind ?_ (starting rfl (by decide))
  refine takes_word_bind (by decide) ?_
  refine takes_name_bind (by decide) ?_
  exact (takes_mark value).map _

/-- A reader of statements of another kind, which start with another character, takes nothing from the next one. -/
theorem Takes.past {reader next : Reader α} {found : α} {parameters : List Value} {expected first later : String}
    {c d : Char} {others tail : List Char} (takes : reader.Takes after (first ++ later) parameters found)
    (expects : expected.toList = c :: others) (starts : first.toList = d :: tail) (apart : d ≠ '"' ∧ d ≠ c) :
    ((do word expected; next) <|> reader).Takes after (first ++ later) parameters found := by
  refine takes.orElse_of_none fun rest more => ?_
  have missing : word expected (tokens .outside ((first ++ later).toList ++ rest), more) = none := by
    refine word_missing expects ?_ more
    rw [String.toList_append, starts]
    rintro head ⟨⟩
    exact apart
  change (word expected _).bind _ = none
  rw [missing]
  rfl

/-- A probe selects something that is no name. -/
theorem selection_probe (later : String) (rest : List Char) (more : List Value) :
    selection (tokens .outside (("SELECT NULL FROM " ++ later).toList ++ rest), more) = none := by
  rw [String.toList_append, List.append_assoc, tokens_word (by decide)]
  rfl

theorem meaning_insertion {text : String} {parameters : List Value} {found : Meaning}
    (takes : insertion.Takes after text parameters found) : meaning.Takes after text parameters found := takes.orElse

theorem meaning_selection {later : String} {parameters : List Value} {found : Meaning}
    (takes : selection.Takes after ("SELECT " ++ later) parameters found) :
    meaning.Takes after ("SELECT " ++ later) parameters found := takes.orElse.past rfl rfl (by decide)

theorem meaning_probing {later : String} {parameters : List Value} {found : Meaning}
    (takes : probing.Takes after ("SELECT NULL FROM " ++ later) parameters found) :
    meaning.Takes after ("SELECT NULL FROM " ++ later) parameters found :=
  (takes.orElse.orElse_of_none (selection_probe later)).past rfl rfl (by decide)

theorem meaning_updating {later : String} {parameters : List Value} {found : Meaning}
    (takes : updating.Takes after ("UPDATE " ++ later) parameters found) :
    meaning.Takes after ("UPDATE " ++ later) parameters found := by
  have probed : (probing <|> updating <|> deletion).Takes after ("UPDATE " ++ later) parameters found :=
    takes.orElse.past rfl rfl (by decide)
  have selected : (selection <|> probing <|> updating <|> deletion).Takes after ("UPDATE " ++ later) parameters found :=
    probed.past rfl rfl (by decide)
  exact selected.past rfl rfl (by decide)

theorem meaning_deletion {later : String} {parameters : List Value} {found : Meaning}
    (takes : deletion.Takes after ("DELETE FROM " ++ later) parameters found) :
    meaning.Takes after ("DELETE FROM " ++ later) parameters found := by
  have updated : (updating <|> deletion).Takes after ("DELETE FROM " ++ later) parameters found :=
    takes.past rfl rfl (by decide)
  have probed : (probing <|> updating <|> deletion).Takes after ("DELETE FROM " ++ later) parameters found :=
    updated.past rfl rfl (by decide)
  have selected : (selection <|> probing <|> updating <|> deletion).Takes after ("DELETE FROM " ++ later) parameters
      found := probed.past rfl rfl (by decide)
  exact selected.past rfl rfl (by decide)

end Reader

/-- A text means what is found, with as many marks outside its names as there are parameters. -/
def Meaning.Of (text : String) (parameters : List Value) (meaning : Meaning) : Prop :=
  Meaning.of? text parameters = some meaning ∧
    (tokens .outside (text.toList.takeWhile (· != '\x00'))).count .mark = parameters.length

open Reader

theorem Reader.Takes.means {statement : Statement} {body ending : String} {parameters : List Value} {found : Meaning}
    (takes : meaning.Takes (· = ';') body parameters found) (text : statement.text = body ++ ending)
    (closing : ending = "" ∨ ending = ";") (named : ∀ name ∈ statement.names, '\x00' ∉ name.toList) :
    Meaning.Of statement.text parameters found := by
  have whole := (Statement.wellQuoted_text named).whole
  have closed : ∀ c ∈ ending.toList.head?, c = ';' := by
    rcases closing with rfl | rfl
    · rintro c ⟨⟩
    · rintro c ⟨⟩
      rfl
  obtain ⟨read, marks, -⟩ := takes ending.toList [] closed
  rw [List.append_nil] at read
  have none : (tokens .outside ending.toList).count .mark = 0 := by rcases closing with rfl | rfl <;> rfl
  unfold Meaning.Of Meaning.of?
  rw [whole, text, String.toList_append, read, marks, none]
  refine ⟨?_, rfl⟩
  rcases closing with rfl | rfl <;> rfl

namespace Statement
variable {table key : String} {columns : List String} {value : Value}

theorem insert_means {values : List Value} (named : ∀ name ∈ table :: columns, '\x00' ∉ name.toList)
    (nonempty : columns ≠ []) (same : values.length = columns.length) :
    Meaning.Of (insert table columns).text values (.insert table [columns.zip values]) := by
  have rows : ∀ row ∈ [values], row.length = columns.length := List.forall_mem_singleton.mpr same
  have taken : insertion.Takes (· = ';')
      (opening table columns ++ commaList ([values].map fun _ => tuple columns.length)) [values].flatten
      (.insert table ([values].map columns.zip)) := takes_insertion nonempty (List.cons_ne_nil _ _) rows
  have single : commaList ([values].map fun _ => tuple columns.length) = tuple columns.length :=
    String.intercalate_singleton
  rw [single, List.flatten_singleton] at taken
  have split : (insert table columns).text = opening table columns ++ tuple columns.length ++ ";" := rfl
  exact (meaning_insertion taken).means split (.inr rfl) named

theorem insertRows_means {rows : List (List Value)} {more : Nat}
    (named : ∀ name ∈ table :: columns, '\x00' ∉ name.toList) (nonempty : columns ≠ [])
    (same : ∀ row ∈ rows, row.length = columns.length) (length : rows.length = more + 1) :
    Meaning.Of (insertRows table columns more).text rows.flatten (.insert table (rows.map columns.zip)) := by
  have filled : rows ≠ [] := by
    rintro rfl
    cases length
  have taken : insertion.Takes (· = ';')
      (opening table columns ++ commaList (rows.map fun _ => tuple columns.length)) rows.flatten
      (.insert table (rows.map columns.zip)) := takes_insertion nonempty filled same
  rw [List.map_const', length] at taken
  have split : (insertRows table columns more).text =
      opening table columns ++ commaList (List.replicate (more + 1) (tuple columns.length)) ++ "" :=
    String.append_empty.symm
  exact (meaning_insertion taken).means split (.inl rfl) named

theorem probe_means (named : ∀ name ∈ [table, key], '\x00' ∉ name.toList) :
    Meaning.Of (probe table key).text [value] (.probe table (key, value)) := by
  have split : (probe table key).text = "SELECT NULL FROM " ++ keyed table key ++ ";" := rfl
  exact (meaning_probing (takes_probing table key value)).means split (.inr rfl) named

theorem delete_means (named : ∀ name ∈ [table, key], '\x00' ∉ name.toList) :
    Meaning.Of (delete table key).text [value] (.delete table (key, value)) := by
  have split : (delete table key).text = "DELETE FROM " ++ keyed table key ++ ";" := rfl
  exact (meaning_deletion (takes_deletion table key value)).means split (.inr rfl) named

theorem select_means {order : Option String} (nonempty : columns ≠ [])
    (named : ∀ name ∈ (select table columns key order).names, '\x00' ∉ name.toList) :
    Meaning.Of (select table columns key order).text [value] (.select table columns (key, value) order) := by
  cases order with
  | none =>
    have split : (select table columns key none).text =
        "SELECT " ++ (commaList (columns.map quote) ++ (" FROM " ++ keyed table key)) ++ ";" := by
      change "SELECT " ++ commaList (columns.map quote) ++ " FROM " ++ keyed table key ++ "" ++ ";" = _
      simp only [String.append_assoc, String.append_empty]
    exact (meaning_selection (takes_selection nonempty table key value)).means split (.inr rfl) named
  | some order =>
    have split : (select table columns key (some order)).text = "SELECT " ++ (commaList (columns.map quote) ++
        (" FROM " ++ (keyed table key ++ (" ORDER BY " ++ (quote order ++ " ASC"))))) ++ ";" := by
      change "SELECT " ++ commaList (columns.map quote) ++ " FROM " ++ keyed table key ++
        (" ORDER BY " ++ quote order ++ " ASC") ++ ";" = _
      simp only [String.append_assoc]
    exact (meaning_selection (takes_sorted nonempty table key order value)).means split (.inr rfl) named

theorem update_means {changes : List (String × Value × Value)} (nonempty : changes ≠ [])
    (named : ∀ name ∈ table :: key :: changes.map (·.1), '\x00' ∉ name.toList) :
    Meaning.Of (update table (changes.map (·.1)) key).text
      (changes.flatMap (fun change => [change.2.1, change.2.2]) ++ [value]) (.update table changes (key, value)) := by
  have split : (update table (changes.map (·.1)) key).text = "UPDATE " ++ (quote table ++ (" SET " ++
      (commaList (changes.map fun change => assignment change.1) ++
        (" WHERE " ++ (quote key ++ (" = " ++ "?")))))) ++ ";" := by
    have ending : " = ?;" = " = " ++ "?" ++ ";" := rfl
    change "UPDATE " ++ quote table ++ " SET " ++ commaList ((changes.map (·.1)).map assignment) ++ " WHERE " ++
      quote key ++ " = ?;" = _
    rw [ending, List.map_map]
    simp only [Function.comp_def, String.append_assoc]
  exact (meaning_updating (takes_updating nonempty table key value)).means split (.inr rfl) named

example : Meaning.of? "UPDATE \"a?\"\"\" SET \"b\" = CASE WHEN ? THEN ? ELSE \"b\" END WHERE \"id\" = ?;"
    [.integer 1, .null, .text "s-1"] = some (.update "a?\"" [("b", .integer 1, .null)] ("id", .text "s-1")) := by
  decide +kernel

end Statement
end EntityStore
