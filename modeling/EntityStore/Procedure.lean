import EntityStore.Cursor
import EntityStore.Statement

/-! Procedures over a store. A procedure is a tree of requests, one branch for every answer, and a store is
whatever answers them. A cursor is asked to advance with a limit on the rows it may still deliver, and each
row it delivers lowers the limit, so every procedure ends. -/

namespace EntityStore

inductive Request where
  | begin
  | execute (statement : Statement) (parameters : List Value)
  | query (statement : Statement) (parameters : List Value)
  | advance (limit : Nat)
  | scan
  | close
  | commit
  | rollback
  /-- Looks at the token and does not reach the store. -/
  | check
  deriving DecidableEq, Repr

/-- A query answers with the limit on its rows. An advance answers with the limit on the rows after the one
it moved to, or with nothing past the last row. -/
abbrev Request.Response : Request → Type
  | .begin => Except StatementError Unit
  | .execute .. => Except StatementError Unit
  | .query .. => Except StatementError Nat
  | .advance limit => Except StatementError (Option (Fin limit))
  | .scan => Except StatementError Row
  | .close => Unit
  | .commit => Except StatementError Unit
  | .rollback => Except StatementError Unit
  | .check => Except StatementError Unit

inductive Procedure (α : Type) where
  | done (result : α)
  | call (request : Request) (next : request.Response → Procedure α)

namespace Procedure

def bind (procedure : Procedure α) (next : α → Procedure β) : Procedure β :=
  match procedure with
  | .done result => next result
  | .call request rest => .call request fun response => (rest response).bind next

instance : Monad Procedure where
  pure := .done
  bind := bind

def ask (request : Request) : Procedure request.Response := .call request .done

end Procedure

/-- Answers a request in its own state. -/
structure Store (σ : Type) where
  answer : (request : Request) → σ → request.Response × σ

def Procedure.run (store : Store σ) : Procedure α → σ → α × σ
  | .done result, state => (result, state)
  | .call request next, state =>
      let answered := store.answer request state
      (next answered.1).run store answered.2

/-- The answer to an advance that finds a row if there is one. -/
def Request.advanced (limit : Nat) (moved : Bool) : Option (Fin limit) :=
  if more : moved = true ∧ 0 < limit then some ⟨limit - 1, by omega⟩ else none

/-- A procedure that stops at its first failure. -/
abbrev Operation := ExceptT CrudError Procedure

namespace Operation

def ofStatement (answer : Procedure (Except StatementError α)) : Operation α :=
  ExceptT.mk do
    match ← answer with
    | .ok result => return .ok result
    | .error error => return .error (.statement error)

def ofCodec (decoded : Except CodecError α) : Operation α :=
  match decoded with
  | .ok result => return result
  | .error error => throw (.codec error)

def execute (statement : Statement) (parameters : List Value) : Operation Unit :=
  ofStatement (Procedure.ask (.execute statement parameters))

def query (statement : Statement) (parameters : List Value) : Operation Nat :=
  ofStatement (Procedure.ask (.query statement parameters))

def advance (limit : Nat) : Operation (Option (Fin limit)) := ofStatement (Procedure.ask (.advance limit))

def scan : Operation Row := ofStatement (Procedure.ask .scan)

def close : Operation Unit := ExceptT.lift (Procedure.ask .close)

/-- Column zero of each row still to come, after the values read so far, newest first. -/
def collect (limit : Nat) (read : List Value) : Operation (List Value) := do
  match ← advance limit with
  | none => return read.reverse
  | some rest =>
      let row ← scan
      let value ← ofCodec (Codec.column row 0)
      collect rest (value :: read)
termination_by limit
decreasing_by exact rest.isLt

/-- What a failure becomes after the rollback that follows it. -/
def afterRollback (primary : CrudError) : Except StatementError Unit → CrudError
  | .ok () => primary
  | .error error => .composite primary [.statement error]

/-- A body, a look at the token, and the commit. -/
def guarded (body : Operation α) : Operation α := do
  let result ← body
  ofStatement (Procedure.ask .check)
  ofStatement (Procedure.ask .commit)
  return result

/-- An operation whose failure is followed by a rollback. -/
def orRollback (operation : Operation α) : Operation α :=
  ExceptT.mk do
    match ← operation.run with
    | .ok result => return .ok result
    | .error primary => return .error (afterRollback primary (← Procedure.ask .rollback))

/-- Runs the body in one transaction. It is committed when the body succeeds and the token is still live, and
any failure after the begin, also that of the commit, is followed by a rollback. -/
def inTransaction (body : Operation α) : Operation α := do
  ofStatement (Procedure.ask .begin)
  orRollback (guarded body)

end Operation
end EntityStore
