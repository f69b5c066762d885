import EntityStore.Engine.Image.Token
import EntityStore.Engine.Table

/-! Tables by the texts that define them: columns with their types and constraints, and constraints of the whole
table. What a definition says beyond keys, required values, defaults and references is left aside. -/

namespace EntityStore.Engine.Image

/-- What a definition has said so far. -/
structure Draft where
  columns : List Column
  numbering : Numbering
  keys : List Key
  references : List Reference

namespace Draft

def empty : Draft := ⟨[], .named, [], []⟩

def constraintWords : List String :=
  ["CONSTRAINT", "PRIMARY", "NOT", "NULL", "UNIQUE", "CHECK", "DEFAULT", "COLLATE", "REFERENCES", "GENERATED", "AS"]

def isConstraint (token : Token) : Bool := constraintWords.any (Token.isWord · token)

/-- The words of a type, with a space between words and none around marks. -/
def typeText : List Token → String
  | [] => ""
  | [token] => spelled token
  | token :: next :: rest =>
      let gap := match token, next with
        | .mark _, _ | _, .mark _ => ""
        | _, _ => " "
      spelled token ++ gap ++ typeText (next :: rest)
where
  spelled : Token → String
    | .word text | .quoted text => text
    | .mark c => String.ofList [c]

def names (tokens : List Token) : List String :=
  match tokens with
  | .mark '(' :: rest => (Token.parts 0 [] (Token.group 0 rest).1).filterMap fun part => part.head?.bind (·.name?)
  | _ => []

def index? (draft : Draft) (name : String) : Option Nat :=
  draft.columns.findIdx? fun column => sameName column.name name

/-- A primary key of one column of the type INTEGER is the number of the row. -/
def addKey (draft : Draft) (columns : List Nat) (primary : Bool) : Draft :=
  match primary, columns with
  | true, [index] =>
      if (draft.columns[index]?).any (sameName ·.type "INTEGER") then { draft with numbering := .column index }
      else { draft with keys := draft.keys ++ [⟨columns, true⟩] }
  | _, _ => { draft with keys := draft.keys ++ [⟨columns, primary⟩] }

/-- A reference to a table, by the name in parentheses after it if there is one. -/
def addReference (draft : Draft) (column : Nat) (tokens : List Token) : Draft :=
  match tokens with
  | parent :: rest =>
      match parent.name? with
      | some name => { draft with references := draft.references ++ [⟨column, name, (names rest).head?⟩] }
      | none => draft
  | [] => draft

/-- A default that is a number or a text between quotes. Other defaults are taken for NULL. -/
def defaultValue (tokens : List Token) : Value :=
  match tokens with
  | .quoted text :: _ => .text text
  | _ =>
      match Text.Numeral.ofText? (typeText (tokens.takeWhile fun token => !isConstraint token)).toList with
      | some numeral => Affinity.ofNumeral numeral
      | none => .null

/-- The constraints of a column, each by the word it begins with. -/
def constrain (draft : Draft) (column : Nat) : List Token → Draft
  | [] => draft
  | token :: rest =>
      let draft :=
        if Token.isWord "PRIMARY" token then draft.addKey [column] true
        else if Token.isWord "UNIQUE" token then draft.addKey [column] false
        else if Token.isWord "REFERENCES" token then draft.addReference column rest
        else if Token.isWord "NOT" token ∧ rest.head?.any (Token.isWord "NULL") then
          { draft with columns := draft.columns.modify column ({ · with required := true }) }
        else if Token.isWord "DEFAULT" token then
          { draft with columns := draft.columns.modify column fun column =>
              { column with default := column.affinity.apply (defaultValue rest) } }
        else draft
      constrain draft column rest

def add (draft : Draft) (part : List Token) : Draft :=
  match part with
  | [] => draft
  | first :: rest =>
      if Token.isWord "CONSTRAINT" first then constraint draft (rest.drop 1)
      else if ["PRIMARY", "UNIQUE", "CHECK", "FOREIGN"].any (Token.isWord · first) then constraint draft part
      else
        match first.name? with
        | none => draft
        | some name =>
            let (type, constraints) := rest.span fun token => !isConstraint token
            let column : Column := { name := name, type := typeText type, required := false }
            let place := draft.columns.length
            { draft with columns := draft.columns ++ [column] }.constrain place constraints
where
  constraint (draft : Draft) : List Token → Draft
    | [] => draft
    | first :: rest =>
        let columns := (names (rest.dropWhile (· != .mark '('))).filterMap draft.index?
        if Token.isWord "PRIMARY" first then draft.addKey columns true
        else if Token.isWord "UNIQUE" first then draft.addKey columns false
        else if Token.isWord "FOREIGN" first then
          match columns with
          | [column] =>
              draft.addReference column ((rest.dropWhile fun token => !Token.isWord "REFERENCES" token).drop 1)
          | _ => draft
        else draft

end Draft

/-- What a definition creates, and under which name. -/
def subject? (tokens : List Token) : Option (String × String) :=
  let modifiers := ["TEMP", "TEMPORARY", "UNIQUE", "VIRTUAL"]
  match (tokens.drop 1).dropWhile fun token => modifiers.any (Token.isWord · token) with
  | .word kind :: rest =>
      let named := if rest.head?.any (Token.isWord "IF") then rest.drop 3 else rest
      (named.head?.bind (·.name?)).map fun name => (kind, name)
  | _ => none

/-- The table of a definition, with its rows if they could be read. They keep the number where a column shows it and
the default in columns that they are too short for. -/
def table (name definition : String) (page : Nat) (entries : Option (List Entry)) : Table :=
  let body := (Token.group 0 (((Token.ofText definition).dropWhile (· != .mark '(')).drop 1)).1
  let draft := (Token.parts 0 [] body).foldl Draft.add .empty
  let complete (entry : Entry) : Entry :=
    let values := draft.columns.mapIdx fun index column =>
      let value := (entry.values[index]?).getD column.default
      if draft.numbering = .column index then entry.numberValue
      else if column.affinity = .real then Affinity.real.apply value
      else value
    { entry with values := values }
  { columns := draft.columns
    numbering := draft.numbering
    keys := draft.keys
    entries := ((entries.getD []).map complete).reverse
    intact := entries.isSome
    name := name
    references := draft.references
    definition := definition
    page := page }

end EntityStore.Engine.Image
