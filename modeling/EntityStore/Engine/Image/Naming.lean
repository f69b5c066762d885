import EntityStore.Engine.Image.Definition
import EntityStore.Engine.Image.Tree

/-! The rows in which the first page of a file names tables and views, with the texts that define them and the pages
where their rows begin. A row that does not agree with its text or with the rows before it makes all tables
unreadable. -/

namespace EntityStore.Engine.Image

/-- A row of the first page: what it stands for, the table that it is about, the page where that begins, and the text
that defines it. -/
structure Naming where
  kind : Value
  name : String
  tableName : Value
  page : Value
  definition : Option String

namespace Naming

/-- A name that is missing is shown as a question mark. -/
def ofRow (row : Row) : Naming where
  kind := cell row 0
  name := match cell row 1 with
    | .text name => name
    | _ => "?"
  tableName := cell row 2
  page := cell row 3
  definition := match cell row 4 with
    | .text text => if text.isEmpty then none else some text
    | _ => none

def refusal (naming : Naming) (detail : Option String) : EngineError := .malformedSchema naming.name detail

def isText (text : String) : Value → Bool
  | .text content => sameName content text
  | _ => false

/-- The page that a row names, of those that there are. -/
def page? (naming : Naming) (pages : Pages) : Option Nat :=
  match naming.page with
  | .integer page => if 0 ≤ page.toInt ∧ page.toInt ≤ pages.count then some page.toInt.toNat else none
  | _ => none

/-- The first column of a table that an earlier one has the name of. -/
def duplicate? : List String → List Column → Option String
  | _, [] => none
  | earlier, column :: rest =>
      if earlier.any (sameName column.name) then some column.name else duplicate? (column.name :: earlier) rest

/-- An item under a name of its own, with columns under names of their own. -/
def requireNew (naming : Naming) (items : List Item) (item : Item) : Except EngineError Unit :=
  let cause := match items.find? (sameName item.name ·.name), item with
    | some (.table _), _ => some (EngineError.tableExists item.name).message
    | some (.view _), _ => some (EngineError.viewExists item.name).message
    | none, .table table => (duplicate? [] table.columns).map ("duplicate column name: " ++ ·)
    | none, .view _ => none
  match cause with
  | some detail => .error (naming.refusal (some detail))
  | none => .ok ()

/-- The item that a text defines, which must agree with the row about its kind and its names. Indexes and triggers are
left aside. -/
def item? (naming : Naming) (pages : Pages) (definition : String) (page : Nat) : Except EngineError (Option Item) :=
  match subject? (Token.ofText definition) with
  | none => .error (naming.refusal none)
  | some (kind, name) =>
      let isTable := sameName kind "table"
      let isItem := isTable || sameName kind "view"
      if !isText kind naming.kind || !sameName name naming.name || (isItem && !isText name naming.tableName) then
        .error (naming.refusal none)
      else if isTable then
        .ok (some (.table (table naming.name definition page (pages.entries? pages.count page))))
      else .ok (if isItem then some (.view naming.name) else none)

/-- Adds what a row names. A row without a definition names the index behind a key of a table before it. -/
def add (pages : Pages) (items : List Item) (naming : Naming) : Except EngineError (List Item) :=
  match naming.page, naming.definition with
  | .null, _ => .error (naming.refusal none)
  | _, some definition =>
      if !definition.toLower.startsWith "cr" then .error (naming.refusal none)
      else
        match naming.page? pages with
        | none => .error (naming.refusal (some "invalid rootpage"))
        | some page => do
            match ← naming.item? pages definition page with
            | some item => do
                naming.requireNew items item
                return items ++ [item]
            | none => return items
  | _, none =>
      if !items.any fun item => item.table?.any (·.indexNames.contains naming.name) then
        .error (naming.refusal (some "orphan index"))
      else
        match naming.page? pages with
        | some (_ + 2) => .ok items
        | _ => .error (naming.refusal (some "invalid rootpage"))

end Naming

end EntityStore.Engine.Image
