import EntityStore.Proofs.Engine.Wording
import EntityStore.Proofs.Reader

/-! Quoted names end where they are meant to. A reader that takes a doubled quote for one and closes at the first other
gets back the name and what follows it, so a name can neither close its own quotes nor put a token into the text around
it. -/

namespace EntityStore

namespace Text.Quoted

/-- Reads a quoted name from the front of a text and leaves what follows it. A zero character ends every text, so no
name has one. -/
def name? : List Char → Option (List Char × List Char)
  | '"' :: rest => (close rest).filter fun found => '\x00' ∉ found.1
  | _ => none

/-- The tokens of a text up to its first zero character. -/
def lexed (text : List Char) : List Token := tokens .outside (text.takeWhile (· != '\x00'))

/-- Where a reader stands after a text. -/
def Position.after : Position → List Char → Position
  | position, [] => position
  | .outside, c :: rest => if c = '"' then Position.after (.inside []) rest else Position.after .outside rest
  | .inside read, c :: rest =>
      if c = '"' then Position.after (.atQuote read) rest else Position.after (.inside (c :: read)) rest
  | .atQuote read, c :: rest =>
      if c = '"' then Position.after (.inside ('"' :: read)) rest else Position.after .outside rest

/-! ### Names that are read back -/

theorem close_escape (name : List Char) {rest : List Char} (apart : ∀ c ∈ rest.head?, c ≠ '"') :
    close (escape name ++ '"' :: rest) = some (name, rest) := by
  induction name with
  | nil =>
    cases rest with
    | nil => rfl
    | cons c rest =>
      have other : c ≠ '"' := apart c rfl
      rw [escape, List.nil_append, close.eq_3 _ _ (by simpa using other), if_pos rfl]
  | cons c name ih =>
    by_cases quote : c = '"'
    · subst quote
      change (close (escape name ++ '"' :: rest)).map _ = _
      rw [ih]
      rfl
    · rw [escape, if_neg quote, List.cons_append, close.eq_3 _ _ (by simp [quote]), if_neg quote, ih]
      rfl

theorem eq_escape_of_close {text name rest : List Char} (closed : close text = some (name, rest)) :
    text = escape name ++ '"' :: rest ∧ ∀ c ∈ rest.head?, c ≠ '"' := by
  fun_induction close text generalizing name rest with
  | case1 => cases closed
  | case2 later ih =>
    obtain ⟨⟨inner, left⟩, found, same⟩ := Option.map_eq_some_iff.mp closed
    cases same
    obtain ⟨written, apart⟩ := ih found
    exact ⟨by rw [written]; rfl, apart⟩
  | case3 later single =>
    cases closed
    refine ⟨rfl, fun c first => ?_⟩
    rintro rfl
    obtain ⟨more, rfl⟩ := List.head?_eq_some_iff.mp first
    exact single more rfl rfl
  | case4 c later single other ih =>
    obtain ⟨⟨inner, left⟩, found, same⟩ := Option.map_eq_some_iff.mp closed
    cases same
    obtain ⟨written, apart⟩ := ih found
    exact ⟨by rw [written, escape, if_neg other, List.cons_append], apart⟩

theorem close_eq_some {text name rest : List Char} :
    close text = some (name, rest) ↔ text = escape name ++ '"' :: rest ∧ ∀ c ∈ rest.head?, c ≠ '"' := by
  constructor
  · exact eq_escape_of_close
  · rintro ⟨rfl, apart⟩
    exact close_escape name apart

theorem toList_quote (name : String) (rest : List Char) :
    (quote name).toList ++ rest = '"' :: (escape name.toList ++ '"' :: rest) := by
  rw [quote, String.toList_ofList, quoteList, List.cons_append, List.append_assoc]
  rfl

theorem name?_eq_some {text rest : List Char} {name : String} : name? text = some (name.toList, rest) ↔
    text = (quote name).toList ++ rest ∧ '\x00' ∉ name.toList ∧ ∀ c ∈ rest.head?, c ≠ '"' := by
  rw [toList_quote]
  constructor
  · intro read
    unfold name? at read
    split at read
    · obtain ⟨closed, zeroFree⟩ := Option.filter_eq_some_iff.mp read
      obtain ⟨written, apart⟩ := close_eq_some.mp closed
      exact ⟨congrArg _ written, of_decide_eq_true zeroFree, apart⟩
    · cases read
  · rintro ⟨rfl, zeroFree, apart⟩
    exact Option.filter_eq_some_iff.mpr ⟨close_eq_some.mpr ⟨rfl, apart⟩, decide_eq_true zeroFree⟩

theorem quote_injective : Function.Injective quote := by
  intro first second same
  have closed (name : String) : close (escape name.toList ++ ['"']) = some (name.toList, []) :=
    close_escape name.toList nofun
  have written : '"' :: (escape first.toList ++ ['"']) = '"' :: (escape second.toList ++ ['"']) := by
    rw [← toList_quote, ← toList_quote, same]
  have read := closed first
  rw [(List.cons.inj written).2, closed] at read
  exact String.toList_inj.mp (congrArg Prod.fst (Option.some.inj read)).symm

/-! ### Names among other tokens -/

/-- A text that ends outside names has its tokens, whatever comes after it. -/
theorem tokens_append {position : Position} {text : List Char} (ends : position.after text = .outside)
    (rest : List Char) : tokens position (text ++ rest) = tokens position text ++ tokens .outside rest := by
  fun_induction Position.after position text with
  | case1 position =>
    subst ends
    rfl
  | case2 text ih | case4 read text ih | case6 read text ih =>
    rw [List.cons_append, tokens, tokens, if_pos rfl, if_pos rfl]
    exact ih ends
  | case3 c text other ih =>
    rw [List.cons_append, tokens, tokens, if_neg other, if_neg other]
    split <;> rw [ih ends, List.cons_append]
  | case5 read c text other ih =>
    rw [List.cons_append, tokens, tokens, if_neg other, if_neg other]
    exact ih ends
  | case7 read c text other ih =>
    rw [List.cons_append, tokens, tokens, if_neg other, if_neg other]
    split <;> rw [ih ends, List.cons_append, List.cons_append]

theorem takeWhile_append {text : List Char} (zeroFree : '\x00' ∉ text) (rest : List Char) :
    (text ++ rest).takeWhile (· != '\x00') = text ++ rest.takeWhile (· != '\x00') := by
  refine List.takeWhile_append_of_pos fun c member => ?_
  rw [bne_iff_ne]
  rintro rfl
  exact zeroFree member

/-- A name between two texts is one token, and the texts keep theirs. -/
theorem lexed_quote {before rest : List Char} {name : String} (early : '\x00' ∉ before)
    (ends : Position.outside.after before = .outside) (zeroFree : '\x00' ∉ name.toList)
    (apart : ∀ c ∈ rest.head?, c ≠ '"') :
    lexed (before ++ ((quote name).toList ++ rest)) = lexed before ++ .name name.toList :: lexed rest := by
  have whole := takeWhile_append early []
  rw [List.append_nil, List.takeWhile_nil, List.append_nil] at whole
  have seen : ∀ c ∈ (rest.takeWhile (· != '\x00')).head?, c ≠ '"' := by
    cases rest with
    | nil => exact apart
    | cons c rest =>
      rw [List.takeWhile_cons]
      split
      · exact apart
      · exact nofun
  unfold lexed
  rw [takeWhile_append early, takeWhile_append (Engine.WellQuoted.quote zeroFree).zeroFree, tokens_append ends,
    tokens_quote name seen, whole]

/-! ### Texts with other names -/

/-- A character outside names. -/
def Token.ofChar (c : Char) : Token := if c = '?' then .mark else .other c

def Token.rename (f : String → String) : Token → Token
  | .name content => .name (f (String.ofList content)).toList
  | .mark => .mark
  | .other c => .other c

theorem Token.rename_ofChar (f : String → String) (c : Char) : (ofChar c).rename f = ofChar c := by
  unfold ofChar
  split <;> rfl

theorem Token.rename_ofChars (f : String → String) (word : List Char) :
    (word.map ofChar).map (rename f) = word.map ofChar := by
  rw [List.map_map]
  exact List.map_congr_left fun c _ => rename_ofChar f c

/-- A word can stand after a name and has none. -/
def Unquoted (word : String) : Prop := word.toList ≠ [] ∧ '"' ∉ word.toList

instance (word : String) : Decidable (Unquoted word) := inferInstanceAs (Decidable (_ ∧ _))

theorem Unquoted.apart {word : String} (unquoted : Unquoted word) (rest : List Char) :
    ∀ c ∈ (word.toList ++ rest).head?, c ≠ '"' := by
  obtain ⟨nonempty, unquoted⟩ := unquoted
  obtain ⟨first, others, starts⟩ := List.exists_cons_of_ne_nil nonempty
  rw [starts] at unquoted ⊢
  rintro c ⟨⟩ rfl
  exact unquoted List.mem_cons_self

theorem tokens_unquoted {word : List Char} (unquoted : '"' ∉ word) (rest : List Char) :
    tokens .outside (word ++ rest) = word.map Token.ofChar ++ tokens .outside rest := by
  induction word with
  | nil => rfl
  | cons c word ih =>
    rw [List.mem_cons, not_or] at unquoted
    rw [List.cons_append, tokens, if_neg (Ne.symm unquoted.1), ih unquoted.2, List.map_cons, Token.ofChar]
    split <;> rfl

/-- The tokens of the second text are those of the first with other names, whatever comes after both. -/
def Renames (f : String → String) (text renamed : String) : Prop :=
  ∃ found : List Token, ∀ rest,
    tokens .outside (text.toList ++ rest) = found ++ tokens .outside rest ∧
      tokens .outside (renamed.toList ++ rest) = found.map (Token.rename f) ++ tokens .outside rest

namespace Renames
variable {f : String → String} {text renamed later others : String}

theorem append (first : Renames f text renamed) (second : Renames f later others) :
    Renames f (text ++ later) (renamed ++ others) := by
  obtain ⟨early, before⟩ := first
  obtain ⟨late, after⟩ := second
  refine ⟨early ++ late, fun rest => ⟨?_, ?_⟩⟩
  · rw [String.toList_append, List.append_assoc, (before _).1, (after rest).1, List.append_assoc]
  · rw [String.toList_append, List.append_assoc, (before _).2, (after rest).2, List.map_append, List.append_assoc]

theorem word {word : String} (unquoted : Unquoted word) : Renames f word word := by
  refine ⟨word.toList.map Token.ofChar, fun rest => ⟨tokens_unquoted unquoted.2 rest, ?_⟩⟩
  rw [tokens_unquoted unquoted.2, Token.rename_ofChars]

theorem empty : Renames f "" "" := ⟨[], fun _ => ⟨rfl, rfl⟩⟩

theorem quoted (name : String) {word : String} (unquoted : Unquoted word) :
    Renames f (quote name ++ word) (quote (f name) ++ word) := by
  refine ⟨.name name.toList :: word.toList.map Token.ofChar, fun rest => ⟨?_, ?_⟩⟩
  · rw [String.toList_append, List.append_assoc, tokens_quote name (unquoted.apart rest), tokens_unquoted unquoted.2]
    rfl
  · rw [String.toList_append, List.append_assoc, tokens_quote (f name) (unquoted.apart rest),
      tokens_unquoted unquoted.2, List.map_cons, Token.rename_ofChars, Token.rename, String.ofList_toList]
    rfl

theorem commaList {α : Type} {items : List α} {written rewritten : α → String}
    (each : ∀ item, Renames f (written item) (rewritten item)) :
    Renames f (Statement.commaList (items.map written)) (Statement.commaList (items.map rewritten)) := by
  induction items with
  | nil => exact empty
  | cons item rest ih =>
    cases rest with
    | nil => exact each item
    | cons next rest =>
      have comma : Renames f ", " ", " := word (by decide)
      rw [Reader.commaList_cons, Reader.commaList_cons]
      exact (each item).append (comma.append ih)

theorem listed (names : List String) {word : String} (unquoted : Unquoted word) :
    Renames f (Statement.commaList (names.map quote) ++ word)
      (Statement.commaList (names.map fun name => quote (f name)) ++ word) := by
  induction names with
  | nil => exact empty.append (.word unquoted)
  | cons name rest ih =>
    cases rest with
    | nil => exact quoted name unquoted
    | cons next rest =>
      have here : Renames f (quote name ++ ", ") (quote (f name) ++ ", ") := quoted name (by decide)
      rw [Reader.commaList_cons, Reader.commaList_cons]
      simpa only [String.append_assoc] using here.append ih

section After
variable (before : Renames f text renamed)
include before

theorem then_word (word : String) (unquoted : Unquoted word) : Renames f (text ++ word) (renamed ++ word) :=
  before.append (.word unquoted)

theorem then_name (name word : String) (unquoted : Unquoted word) :
    Renames f (text ++ quote name ++ word) (renamed ++ quote (f name) ++ word) := by
  rw [String.append_assoc, String.append_assoc]
  exact before.append (quoted name unquoted)

theorem then_names (names : List String) (word : String) (unquoted : Unquoted word) :
    Renames f (text ++ Statement.commaList (names.map quote) ++ word)
      (renamed ++ Statement.commaList ((names.map f).map quote) ++ word) := by
  rw [String.append_assoc, String.append_assoc, List.map_map]
  exact before.append (listed names unquoted)

end After

theorem repeated (item : Renames f text renamed) (count : Nat) :
    Renames f (Statement.commaList (List.replicate count text)) (Statement.commaList (List.replicate count renamed)) := by
  have mapped : Renames f (Statement.commaList ((List.range count).map fun _ => text))
      (Statement.commaList ((List.range count).map fun _ => renamed)) := commaList fun _ => item
  rwa [List.map_const', List.map_const', List.length_range] at mapped

end Renames
end Text.Quoted

open Text.Quoted

namespace Statement

/-- The same statement on a table and columns of other names. -/
def rename (f : String → String) : Statement → Statement
  | .insert table columns => .insert (f table) (columns.map f)
  | .insertRows table columns more => .insertRows (f table) (columns.map f) more
  | .select table columns key order => .select (f table) (columns.map f) (f key) (order.map f)
  | .probe table key => .probe (f table) (f key)
  | .update table columns key => .update (f table) (columns.map f) (f key)
  | .delete table key => .delete (f table) (f key)

variable {f : String → String}

theorem names_rename (statement : Statement) : (statement.rename f).names = statement.names.map f := by
  cases statement with
  | select table columns key order => cases order <;> simp [rename, names]
  | _ => simp [rename, names]

theorem renames_tuple (width : Nat) : Renames f (tuple width) (tuple width) := by
  have opens : Renames f "(" "(" := .word (by decide)
  have mark : Renames f "?" "?" := .word (by decide)
  exact (opens.append (mark.repeated width)).then_word ")" (by decide)

theorem renames_opening (table : String) (columns : List String) :
    Renames f (opening table columns) (opening (f table) (columns.map f)) := by
  have start : Renames f "INSERT INTO " "INSERT INTO " := .word (by decide)
  exact (start.then_name table " (" (by decide)).then_names columns ") VALUES " (by decide)

theorem renames_keyed (table key : String) : Renames f (keyed table key) (keyed (f table) (f key)) := by
  have start : Renames f (quote table ++ " WHERE ") (quote (f table) ++ " WHERE ") := .quoted table (by decide)
  exact start.then_name key " = ?" (by decide)

theorem renames_assignment (column : String) : Renames f (assignment column) (assignment (f column)) := by
  have start : Renames f (quote column ++ " = CASE WHEN ? THEN ? ELSE ")
      (quote (f column) ++ " = CASE WHEN ? THEN ? ELSE ") := .quoted column (by decide)
  exact start.then_name column " END" (by decide)

theorem renames_text (statement : Statement) : Renames f statement.text (statement.rename f).text := by
  have cells (columns : List String) : Renames f (tuple columns.length) (tuple (columns.map f).length) := by
    rw [List.length_map]
    exact renames_tuple _
  cases statement with
  | insert table columns =>
    exact ((renames_opening table columns).append (cells columns)).then_word ";" (by decide)
  | insertRows table columns more => exact (renames_opening table columns).append ((cells columns).repeated (more + 1))
  | select table columns key order =>
    have start : Renames f "SELECT " "SELECT " := .word (by decide)
    have selected := (start.then_names columns " FROM " (by decide)).append (renames_keyed table key)
    cases order with
    | none => exact (selected.append .empty).then_word ";" (by decide)
    | some column =>
      have sorted : Renames f " ORDER BY " " ORDER BY " := .word (by decide)
      exact (selected.append (sorted.then_name column " ASC" (by decide))).then_word ";" (by decide)
  | probe table key =>
    have start : Renames f "SELECT NULL FROM " "SELECT NULL FROM " := .word (by decide)
    exact (start.append (renames_keyed table key)).then_word ";" (by decide)
  | update table columns key =>
    have start : Renames f "UPDATE " "UPDATE " := .word (by decide)
    have assigned : Renames f (commaList (columns.map assignment)) (commaList ((columns.map f).map assignment)) := by
      rw [List.map_map]
      exact .commaList renames_assignment
    have changed := (start.then_name table " SET " (by decide)).append assigned
    exact (changed.then_word " WHERE " (by decide)).then_name key " = ?;" (by decide)
  | delete table key =>
    have start : Renames f "DELETE FROM " "DELETE FROM " := .word (by decide)
    exact (start.append (renames_keyed table key)).then_word ";" (by decide)

theorem lexed_text {statement : Statement} (named : ∀ name ∈ statement.names, '\x00' ∉ name.toList) :
    lexed statement.text.toList = tokens .outside statement.text.toList := by
  rw [lexed, (wellQuoted_text named).whole]

/-- The names of a statement stand in their tokens and nowhere else. -/
theorem lexed_rename {statement : Statement} (named : ∀ name ∈ statement.names, '\x00' ∉ name.toList)
    (renamed : ∀ name ∈ statement.names, '\x00' ∉ (f name).toList) :
    lexed (statement.rename f).text.toList = (lexed statement.text.toList).map (Token.rename f) := by
  have others : ∀ name ∈ (statement.rename f).names, '\x00' ∉ name.toList := by
    rw [names_rename]
    exact List.forall_mem_map.mpr renamed
  obtain ⟨found, same⟩ := renames_text (f := f) statement
  obtain ⟨here, there⟩ := same []
  rw [List.append_nil, tokens, List.append_nil] at here there
  rw [lexed_text named, lexed_text others, here, there]

end Statement

/-- A quoted name is read back with exactly what follows it, and nothing else is read as a name. So no two names are
written alike, a name is one token between the tokens of any two texts, and in a statement with other names no other
token is changed. -/
theorem quotes_delimit :
    (∀ (text rest : List Char) (name : String), name? text = some (name.toList, rest) ↔
      text = (quote name).toList ++ rest ∧ '\x00' ∉ name.toList ∧ ∀ c ∈ rest.head?, c ≠ '"') ∧
    Function.Injective quote ∧
    (∀ (before rest : List Char) (name : String), '\x00' ∉ before → Position.outside.after before = .outside →
      '\x00' ∉ name.toList → (∀ c ∈ rest.head?, c ≠ '"') →
      lexed (before ++ ((quote name).toList ++ rest)) = lexed before ++ .name name.toList :: lexed rest) ∧
    ∀ (statement : Statement) (f : String → String),
      (∀ name ∈ statement.names, '\x00' ∉ name.toList ∧ '\x00' ∉ (f name).toList) →
      lexed (statement.rename f).text.toList = (lexed statement.text.toList).map (Token.rename f) := by
  refine ⟨fun text rest name => name?_eq_some, quote_injective, ?_, ?_⟩
  · intro before rest name early ends zeroFree apart
    exact lexed_quote early ends zeroFree apart
  · intro statement f named
    exact Statement.lexed_rename (fun name member => (named name member).1) fun name member => (named name member).2

/-- A name that starts and ends with quotes, and has a statement between them. -/
theorem quotes_delimit_odd :
    let name := "\"; DROP TABLE \"girl_scout\"\""
    let f := fun other => if other = "girl_scout" then name else other
    name? ((quote name).toList ++ " WHERE".toList) = some (name.toList, " WHERE".toList) ∧
      lexed ("DELETE FROM ".toList ++ ((quote name).toList ++ " WHERE".toList)) =
        lexed "DELETE FROM ".toList ++ .name name.toList :: lexed " WHERE".toList ∧
      lexed (Statement.delete name "id").text.toList =
        (lexed (Statement.delete "girl_scout" "id").text.toList).map (Token.rename f) := by
  intro name f
  obtain ⟨read, -, between, renamed⟩ := quotes_delimit
  have word : Unquoted " WHERE" := by decide
  have apart : ∀ c ∈ " WHERE".toList.head?, c ≠ '"' := word.apart []
  refine ⟨(read _ _ _).mpr ⟨rfl, by decide, apart⟩, between _ _ _ (by decide) rfl (by decide) apart, ?_⟩
  exact renamed (.delete "girl_scout" "id") f (by decide)

end EntityStore
