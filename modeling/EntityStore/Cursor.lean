import EntityStore.Cancel

/-! Forward-only cursors over rows that were already fetched. -/

namespace EntityStore

abbrev Row := List Value

/-- The rows still to come, and the row the cursor stands on. -/
structure Cursor where
  rows : List Row
  current : Option Row
  deriving DecidableEq, Repr

namespace Cursor

def ofRows (rows : List Row) : Cursor := ⟨rows, none⟩

/-- Moves to the next row, or past the last one. A cancelled token leaves the cursor where it stands. -/
def advance (cursor : Cursor) (token : Token) : Except StatementError Bool × Cursor :=
  match token.check, cursor.rows with
  | .error error, _ => (.error error, cursor)
  | .ok (), [] => (.ok false, ⟨[], none⟩)
  | .ok (), row :: rest => (.ok true, ⟨rest, some row⟩)

def scan (cursor : Cursor) : Except StatementError Row :=
  match cursor.current with
  | some row => .ok row
  | none => .error .noCurrentRow

end Cursor
end EntityStore
