import EntityStore.Engine.Transaction
import EntityStore.Procedure
import EntityStore.Text.Search

/-! The engine as a store for procedures, and a store around it that injects faults. -/

namespace EntityStore.Engine

/-- A transaction and the cursor of its last query. -/
structure Attached where
  transaction : Transaction
  cursor : Cursor
  deriving DecidableEq, Repr

namespace Attached

def ofConnection (connection : Connection) (token : Token) : Attached := ⟨⟨connection, token⟩, .ofRows []⟩

def after (attached : Attached) (step : Except StatementError α × Transaction) :
    Except StatementError α × Attached :=
  (step.1, { attached with transaction := step.2 })

def query (attached : Attached) (statement : Statement) (parameters : List Value) :
    Except StatementError Nat × Attached :=
  match attached.transaction.query statement parameters with
  | (.error error, transaction) => (.error error, { attached with transaction := transaction })
  | (.ok rows, transaction) => (.ok rows.length, ⟨transaction, .ofRows rows⟩)

def advance (attached : Attached) (limit : Nat) : Except StatementError (Option (Fin limit)) × Attached :=
  let (outcome, cursor) := attached.cursor.advance attached.transaction.token
  (outcome.map (Request.advanced limit), { attached with cursor := cursor })

def answer : (request : Request) → Attached → request.Response × Attached
  | .begin, attached => attached.after attached.transaction.begin
  | .execute statement parameters, attached =>
      let (outcome, next) := attached.after (attached.transaction.execute statement parameters)
      (outcome.map fun _ => (), next)
  | .query statement parameters, attached => attached.query statement parameters
  | .advance limit, attached => attached.advance limit
  | .scan, attached => (attached.cursor.scan, attached)
  | .close, attached => ((), attached)
  | .commit, attached => attached.after attached.transaction.commit
  | .rollback, attached => attached.after attached.transaction.rollback
  | .check, attached => (attached.transaction.token.check, attached)

def store : Store Attached := ⟨answer⟩

end Attached

/-- Faults that a store injects. Statements are chosen by a part of their text. -/
structure Faults where
  failStatement : Option String
  cancelAfter : Option String
  failCommit : Bool
  failRollback : Bool
  deriving DecidableEq, Repr

namespace Faults

def chooses (part : Option String) (statement : Statement) : Bool :=
  part.any fun part => Text.occurs part.toList statement.text.toList

/-- Cancels the token when a chosen statement has succeeded. -/
def cancelling (faults : Faults) (statement : Statement) (step : Except StatementError α × Attached) :
    Except StatementError α × Attached :=
  match step with
  | (.ok result, attached) =>
      if chooses faults.cancelAfter statement then
        (.ok result, { attached with transaction := attached.transaction.cancel })
      else (.ok result, attached)
  | (.error error, attached) => (.error error, attached)

/-- A chosen statement fails without running, a commit without committing, and a rollback after it has rolled
back. -/
def answer (faults : Faults) : (request : Request) → Attached → request.Response × Attached
  | .execute statement parameters, attached =>
      if chooses faults.failStatement statement then (.error (.backend "injected statement failure"), attached)
      else faults.cancelling statement (Attached.answer (.execute statement parameters) attached)
  | .query statement parameters, attached =>
      faults.cancelling statement (Attached.answer (.query statement parameters) attached)
  | .commit, attached =>
      if faults.failCommit then (.error (.backend "injected commit failure"), attached)
      else Attached.answer .commit attached
  | .rollback, attached =>
      let (outcome, attached) := Attached.answer .rollback attached
      if faults.failRollback then (.error (.backend "injected rollback failure"), attached) else (outcome, attached)
  | request, attached => Attached.answer request attached

def store (faults : Faults) : Store Attached := ⟨faults.answer⟩

end Faults
end EntityStore.Engine
