import EntityStore.Engine.Connection

/-! Transactions under a token. Every statement and the commit look at the token first; a rollback does not, and
succeeds where no transaction is open. -/

namespace EntityStore.Engine

/-- A connection and the token that its statements observe. -/
structure Transaction where
  connection : Connection
  token : Token
  deriving DecidableEq, Repr

namespace Transaction

/-- Runs a step of the connection unless the token forbids it. -/
def guarded (transaction : Transaction) (step : Connection → Except EngineError α × Connection) :
    Except StatementError α × Transaction :=
  match transaction.token.check with
  | .error error => (.error error, transaction)
  | .ok () =>
      let (outcome, connection) := step transaction.connection
      (outcome.mapError .engine, { transaction with connection := connection })

def begin (transaction : Transaction) : Except StatementError Unit × Transaction :=
  transaction.guarded Connection.beginWriting

def execute (transaction : Transaction) (statement : Statement) (parameters : List Value) :
    Except StatementError Nat × Transaction :=
  transaction.guarded fun connection => connection.execute statement parameters

def query (transaction : Transaction) (statement : Statement) (parameters : List Value) :
    Except StatementError (List Row) × Transaction :=
  transaction.guarded fun connection => connection.query statement parameters

def commit (transaction : Transaction) : Except StatementError Unit × Transaction :=
  transaction.guarded Connection.commit

def rollback (transaction : Transaction) : Except StatementError Unit × Transaction :=
  if transaction.connection.autocommit then (.ok (), transaction)
  else
    let (outcome, connection) := transaction.connection.rollback
    (outcome.mapError .engine, { transaction with connection := connection })

def drop (transaction : Transaction) : Connection := transaction.rollback.2.connection

def cancel (transaction : Transaction) : Transaction := { transaction with token := transaction.token.cancel }

def deferForeignKeys (transaction : Transaction) : Transaction :=
  { transaction with connection := transaction.connection.deferForeignKeys }

end Transaction
end EntityStore.Engine
