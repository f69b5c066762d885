import EntityStore.Statement

/-! Readers of statement text. A reader takes tokens from the front of a text and the parameters that belong to their
marks, so what it finds has every parameter at the place where its mark stands. -/

namespace EntityStore

namespace Text.Quoted

/-- A word has neither quotes nor question marks, so each of its characters is a token. -/
def Plain (word : List Char) : Prop := word.all (fun c => c != '"' && c != '?') = true

instance (word : List Char) : Decidable (Plain word) := inferInstanceAs (Decidable (_ = true))

theorem plain_cons {c : Char} {word : List Char} : Plain (c :: word) ↔ (c ≠ '"' ∧ c ≠ '?') ∧ Plain word := by
  simp only [Plain, List.all_cons, Bool.and_eq_true, bne_iff_ne]

theorem tokens_word {word : List Char} (plain : Plain word) (rest : List Char) :
    tokens .outside (word ++ rest) = word.map .other ++ tokens .outside rest := by
  induction word with
  | nil => rfl
  | cons c word ih =>
    obtain ⟨⟨quote, mark⟩, plain⟩ := plain_cons.mp plain
    rw [List.cons_append, tokens, if_neg quote, if_neg mark, ih plain]
    rfl

/-- A quote after the closing one would be read as a part of the name. -/
theorem tokens_inside (name read : List Char) {rest : List Char} (apart : ∀ c ∈ rest.head?, c ≠ '"') :
    tokens (.inside read) (escape name ++ '"' :: rest) = .name (read.reverse ++ name) :: tokens .outside rest := by
  induction name generalizing read with
  | nil =>
    change tokens (.atQuote read) rest = _
    cases rest with
    | nil => simp [tokens]
    | cons c rest =>
      rw [tokens, tokens, if_neg (apart c rfl), if_neg (apart c rfl), List.append_nil]
      split <;> rfl
  | cons c name ih =>
    by_cases quote : c = '"'
    · subst quote
      change tokens (.inside ('"' :: read)) (escape name ++ '"' :: rest) = _
      rw [ih, List.reverse_cons, List.append_assoc]
      rfl
    · rw [escape, if_neg quote, List.cons_append, tokens, if_neg quote, ih, List.reverse_cons, List.append_assoc]
      rfl

theorem tokens_quote (name : String) {rest : List Char} (apart : ∀ c ∈ rest.head?, c ≠ '"') :
    tokens .outside ((quote name).toList ++ rest) = .name name.toList :: tokens .outside rest := by
  rw [quote, String.toList_ofList, quoteList, List.cons_append, List.append_assoc]
  exact tokens_inside name.toList [] apart

end Text.Quoted

open Text Text.Quoted

/-- Takes tokens and parameters, and fails where the text is not what it expects. -/
abbrev Reader := StateT (List Quoted.Token × List Value) Option

namespace Reader

def word (text : String) : Reader Unit := fun (tokens, parameters) =>
  let expected := text.toList.map Quoted.Token.other
  if expected.isPrefixOf tokens then some ((), tokens.drop expected.length, parameters) else none

def name : Reader String
  | (.name content :: tokens, parameters) => some (String.ofList content, tokens, parameters)
  | _ => none

/-- The parameter that stands for a mark. -/
def mark : Reader Value
  | (.mark :: tokens, parameter :: parameters) => some (parameter, tokens, parameters)
  | _ => none

/-- At least one item and at most as many as the limit, with a comma between each two. -/
def items (item : Reader α) : Nat → Reader (List α)
  | 0 => failure
  | limit + 1 => do
      let first ← item
      (do
        word ", "
        let rest ← items item limit
        return first :: rest) <|> return [first]

def list (item : Reader α) : Reader (List α) := do
  let (tokens, _) ← get
  items item tokens.length

end Reader

/-- Where such a text is followed by nothing or by a character of a kind, the reader takes the whole text and its
parameters and nothing else, and the text has a mark for every parameter. -/
def Reader.Takes (reader : Reader α) (before : Char → Prop) (text : String) (parameters : List Value) (found : α) : Prop :=
  ∀ rest more, (∀ c ∈ rest.head?, before c) →
    reader (tokens .outside (text.toList ++ rest), parameters ++ more) = some (found, tokens .outside rest, more) ∧
      (tokens .outside (text.toList ++ rest)).count .mark = parameters.length + (tokens .outside rest).count .mark ∧
      (tokens .outside rest).length < (tokens .outside (text.toList ++ rest)).length

namespace Reader
variable {before after : Char → Prop} {text later : String} {parameters values : List Value}

/-- Names end before anything but another quote, and lists before anything but a comma and, for their last name, a
quote. -/
def Closes (c : Char) : Prop := c ≠ '"'

def Ends (c : Char) : Prop := c ≠ '"' ∧ c ≠ ','

instance (c : Char) : Decidable (Closes c) := inferInstanceAs (Decidable (c ≠ '"'))

instance (c : Char) : Decidable (Ends c) := inferInstanceAs (Decidable (c ≠ '"' ∧ c ≠ ','))

/-- Texts that readers look for are not empty and have neither names nor marks. -/
def Spelled (text : String) : Prop := text.toList ≠ [] ∧ Plain text.toList

instance (text : String) : Decidable (Spelled text) := inferInstanceAs (Decidable (_ ∧ _))

theorem takes_word (text : String) (spelled : Spelled text) : (word text).Takes before text [] () := by
  intro rest more _
  obtain ⟨nonempty, plain⟩ := spelled
  have lexed := tokens_word plain rest
  refine ⟨?_, ?_, ?_⟩
  · have found : (text.toList.map Quoted.Token.other).isPrefixOf
        (text.toList.map .other ++ tokens .outside rest) = true :=
      List.isPrefixOf_iff_prefix.mpr (List.prefix_append _ _)
    simp only [word, lexed, found, if_true, List.drop_left, List.nil_append]
  · have none : (text.toList.map Quoted.Token.other).count .mark = 0 := by
      rw [List.count_eq_zero]
      intro member
      obtain ⟨c, -, same⟩ := List.mem_map.mp member
      cases same
    rw [lexed, List.count_append, none]
    rfl
  · have long : 0 < text.toList.length := List.length_pos_iff.mpr nonempty
    rw [lexed, List.length_append, List.length_map]
    omega

theorem word_missing {c : Char} {others : List Char} (starts : text.toList = c :: others) {rest : List Char}
    (apart : ∀ other ∈ rest.head?, other ≠ '"' ∧ other ≠ c) (more : List Value) :
    word text (tokens .outside rest, more) = none := by
  have different : (text.toList.map Quoted.Token.other).isPrefixOf (tokens .outside rest) = false := by
    rw [starts]
    cases rest with
    | nil => rfl
    | cons first rest =>
      obtain ⟨quote, other⟩ := apart first rfl
      rw [tokens, if_neg quote]
      split
      · rfl
      · have unlike : (Quoted.Token.other c == .other first) = false := by
          rw [beq_eq_false_iff_ne]
          rintro ⟨⟩
          exact other rfl
        rw [List.map_cons, List.isPrefixOf, unlike, Bool.false_and]
  simp only [word, different, Bool.false_eq_true, if_false]

theorem takes_name (content : String) : name.Takes Closes (quote content) [] content := by
  intro rest more apart
  have lexed := tokens_quote content apart
  refine ⟨?_, ?_, ?_⟩
  · rw [lexed]
    simp only [name, String.ofList_toList, List.nil_append]
  · rw [lexed, List.count_cons_of_ne (by simp)]
    exact (Nat.zero_add _).symm
  · rw [lexed]
    exact Nat.lt_succ_self _

theorem takes_mark (value : Value) : mark.Takes before "?" [value] value := by
  intro rest more _
  refine ⟨rfl, ?_, Nat.lt_succ_self _⟩
  change (Quoted.Token.mark :: tokens .outside rest).count .mark = _
  rw [List.count_cons_self, Nat.add_comm]
  rfl

theorem Takes.nonempty {reader : Reader α} {found : α} (takes : reader.Takes before text parameters found) :
    text.toList ≠ [] := by
  intro empty
  obtain ⟨-, -, shorter⟩ := takes [] [] nofun
  rw [empty] at shorter
  exact Nat.lt_irrefl _ shorter

theorem Takes.bind {reader : Reader α} {next : α → Reader β} {first : α} {found : β}
    (takes : reader.Takes before text parameters first) (rest : (next first).Takes after later values found)
    (apart : ∀ c ∈ later.toList.head?, before c) :
    (reader >>= next).Takes after (text ++ later) (parameters ++ values) found := by
  intro tail more ends
  have joined : (text ++ later).toList ++ tail = text.toList ++ (later.toList ++ tail) := by
    rw [String.toList_append, List.append_assoc]
  have apart : ∀ c ∈ (later.toList ++ tail).head?, before c := by
    obtain ⟨c, others, shape⟩ := List.exists_cons_of_ne_nil rest.nonempty
    rw [shape] at apart ⊢
    exact apart
  obtain ⟨early, earlyMarks, earlyShorter⟩ := takes (later.toList ++ tail) (values ++ more) apart
  obtain ⟨late, lateMarks, lateShorter⟩ := rest tail more ends
  rw [joined]
  refine ⟨?_, ?_, by omega⟩
  · rw [List.append_assoc]
    change (reader _).bind (fun read => next read.1 read.2) = _
    rw [early]
    exact late
  · rw [earlyMarks, lateMarks, List.length_append, Nat.add_assoc]

theorem Takes.bind_nil {reader : Reader α} {next : α → Reader β} {first : α} {found : β}
    (takes : reader.Takes before text parameters first) (rest : (next first).Takes after later [] found)
    (apart : ∀ c ∈ later.toList.head?, before c) :
    (reader >>= next).Takes after (text ++ later) parameters found := by
  have bound := takes.bind rest apart
  rwa [List.append_nil] at bound

theorem Takes.map {reader : Reader α} {found : α} (takes : reader.Takes before text parameters found) (f : α → β) :
    (do return f (← reader)).Takes before text parameters (f found) := by
  intro rest more ends
  obtain ⟨read, counted⟩ := takes rest more ends
  refine ⟨?_, counted⟩
  change (reader _).bind (fun read => some (f read.1, read.2)) = _
  rw [read]
  rfl

theorem takes_word_bind {next : Reader α} {found : α} {text : String} (spelled : Spelled text)
    (rest : next.Takes after later values found) : (do word text; next).Takes after (text ++ later) values found := by
  have taken : (word text).Takes (fun _ => True) text [] () := takes_word text spelled
  exact taken.bind rest fun _ _ => trivial

theorem takes_mark_bind {next : Value → Reader α} {value : Value} {found : α}
    (rest : (next value).Takes after later values found) :
    (mark >>= next).Takes after ("?" ++ later) (value :: values) found := by
  have taken : mark.Takes (fun _ => True) "?" [value] value := takes_mark value
  exact taken.bind rest fun _ _ => trivial

theorem Takes.without {reader : Reader α} {found : α} (takes : reader.Takes before text parameters found)
    {ending : α → Reader β} {f : α → β} (weaker : ∀ c, after c → before c)
    (missing : ∀ rest more, (∀ c ∈ rest.head?, after c) → ending found (tokens .outside rest, more) = none) :
    (reader >>= fun found => ending found <|> pure (f found)).Takes after text parameters (f found) := by
  intro rest more ends
  obtain ⟨read, counted⟩ := takes rest more fun c first => weaker c (ends c first)
  refine ⟨?_, counted⟩
  change (reader _).bind (fun read => (ending read.1 read.2).orElse fun _ => some (f read.1, read.2)) = _
  rw [read]
  change (ending found (tokens .outside rest, more)).orElse (fun _ => some (f found, tokens .outside rest, more)) = _
  rw [missing rest more ends]
  rfl

theorem alone {c : Char} {others : List Char} (starts : text.toList = c :: others) (fine : before c) :
    ∀ first ∈ text.toList.head?, before first := by
  rw [starts]
  rintro first ⟨⟩
  exact fine

theorem starting {c : Char} {others : List Char} (starts : text.toList = c :: others) (fine : before c) :
    ∀ first ∈ (text ++ later).toList.head?, before first := by
  have joined : (text ++ later).toList = c :: (others ++ later.toList) := by
    rw [String.toList_append, starts]
    rfl
  exact alone joined fine

theorem takes_name_bind {next : String → Reader α} {found : α} {content text : String}
    (spelled : Spelled text) (rest : (next content).Takes after later values found) :
    (do let read ← name; word text; next read).Takes after (quote content ++ (text ++ later)) values found := by
  obtain ⟨c, others, starts⟩ := List.exists_cons_of_ne_nil spelled.1
  have plain := spelled.2
  rw [starts] at plain
  exact (takes_name content).bind (takes_word_bind spelled rest) (starting starts (plain_cons.mp plain).1.1)

theorem Takes.orElse {reader other : Reader α} {found : α} (takes : reader.Takes before text parameters found) :
    (reader <|> other).Takes before text parameters found := by
  intro rest more ends
  obtain ⟨read, counted⟩ := takes rest more ends
  refine ⟨?_, counted⟩
  change (reader _).orElse (fun _ => other _) = _
  rw [read]
  rfl

theorem Takes.orElse_of_none {other reader : Reader α} {found : α} (takes : reader.Takes before text parameters found)
    (none : ∀ rest more, other (tokens .outside (text.toList ++ rest), more) = none) :
    (other <|> reader).Takes before text parameters found := by
  intro rest more ends
  obtain ⟨read, counted⟩ := takes rest more ends
  refine ⟨?_, counted⟩
  change (other _).orElse (fun _ => reader _) = _
  rw [none]
  exact read

section Lists
variable {item : Reader α} {written : β → String} {bound : β → List Value} {read : β → α}

theorem takes_comma : (word ", ").Takes before ", " [] () := takes_word _ (by decide)

theorem commaList_cons (entry next : β) (rest : List β) : Statement.commaList ((entry :: next :: rest).map written) =
    written entry ++ (", " ++ Statement.commaList ((next :: rest).map written)) := by
  rw [Statement.commaList, List.map_cons, List.map_cons, String.intercalate_cons_cons, String.append_assoc]
  rfl

/-- A text of items has at least as many tokens. -/
theorem length_commaList (comma : before ',') (weaker : ∀ c, after c → before c) {entries : List β}
    (all : ∀ entry ∈ entries, item.Takes before (written entry) (bound entry) (read entry)) {rest : List Char}
    (ends : ∀ c ∈ rest.head?, after c) :
    entries.length ≤ (tokens .outside ((Statement.commaList (entries.map written)).toList ++ rest)).length := by
  induction entries with
  | nil => exact Nat.zero_le _
  | cons entry others ih =>
    obtain ⟨here, later⟩ := List.forall_mem_cons.mp all
    cases others with
    | nil =>
      obtain ⟨-, -, shorter⟩ := here rest [] fun c first => weaker c (ends c first)
      change 1 ≤ (tokens .outside ((", ".intercalate [written entry]).toList ++ rest)).length
      rw [String.intercalate_singleton]
      omega
    | cons next others =>
      have counted := ih later
      have comma : ∀ c ∈ (", ".toList ++ ((Statement.commaList ((next :: others).map written)).toList ++ rest)).head?,
          before c := by
        rintro c ⟨⟩
        exact comma
      obtain ⟨-, -, shorter⟩ := here _ [] comma
      have separated : (word ", ").Takes (fun _ => True) ", " [] () := takes_comma
      obtain ⟨-, -, shortest⟩ := separated
        ((Statement.commaList ((next :: others).map written)).toList ++ rest) [] fun _ _ => trivial
      rw [commaList_cons, String.toList_append, String.toList_append, List.append_assoc, List.append_assoc]
      have longer : (entry :: next :: others).length = (next :: others).length + 1 := rfl
      omega

theorem takes_items (comma : before ',') (weaker : ∀ c, after c → before c)
    (apart : ∀ c, after c → Ends c) {entries : List β}
    (all : ∀ entry ∈ entries, item.Takes before (written entry) (bound entry) (read entry)) (nonempty : entries ≠ [])
    {limit : Nat} (enough : entries.length ≤ limit) :
    (items item limit).Takes after (Statement.commaList (entries.map written)) (entries.flatMap bound)
      (entries.map read) := by
  induction entries generalizing limit with
  | nil => exact absurd rfl nonempty
  | cons entry others ih =>
    obtain ⟨here, later⟩ := List.forall_mem_cons.mp all
    obtain ⟨limit, rfl⟩ : ∃ less, limit = less + 1 := ⟨limit - 1, by rw [List.length_cons] at enough; omega⟩
    cases others with
    | nil =>
      have alone : Statement.commaList ([entry].map written) = written entry := String.intercalate_singleton
      rw [alone, List.flatMap_singleton]
      refine Takes.without here weaker fun rest more ends => ?_
      have missing : word ", " (tokens .outside rest, more) = none :=
        word_missing rfl (fun c first => apart c (ends c first)) more
      change (word ", " (tokens .outside rest, more)).bind _ = none
      rw [missing]
      rfl
    | cons next others =>
      rw [commaList_cons, List.flatMap_cons, ← List.nil_append (List.flatMap bound _)]
      refine here.bind (Takes.orElse (takes_comma.bind ?_ fun _ _ => trivial)) ?_
      · exact (ih later (by simp) (by rw [List.length_cons] at enough; omega)).map (read entry :: ·)
      · exact starting rfl comma

theorem takes_list (comma : before ',') (weaker : ∀ c, after c → before c) (apart : ∀ c, after c → Ends c)
    {entries : List β} (all : ∀ entry ∈ entries, item.Takes before (written entry) (bound entry) (read entry))
    (nonempty : entries ≠ []) :
    (list item).Takes after (Statement.commaList (entries.map written)) (entries.flatMap bound) (entries.map read) := by
  intro rest more ends
  have enough := length_commaList comma weaker all ends
  exact takes_items comma weaker apart all nonempty enough rest more ends

end Lists
end Reader
end EntityStore
