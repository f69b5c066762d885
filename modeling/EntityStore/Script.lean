import EntityStore.Procedure

/-! Stores that follow a script. Such a store records every call and answers as it is told. The token may be
cancelled at one call, before that call is answered; the store itself never looks at it. -/

namespace EntityStore

/-- How a script answers a statement, and how the cursor over its rows behaves. -/
structure ScriptedResponse where
  error : Option StatementError
  rows : List Row
  /-- The advance, counted from zero, that fails. -/
  failAdvance : Option Nat
  failScan : Bool
  cursorError : StatementError
  deriving Repr

structure Script where
  begin : Option StatementError
  commit : Option StatementError
  rollback : Option StatementError
  responses : List ScriptedResponse
  /-- The call, counted from zero, at which the token is cancelled. -/
  cancelAt : Option Nat
  deriving Repr

namespace Script

/-- The rest of the script, the response whose cursor is open, and the calls so far, newest first. -/
structure State where
  script : Script
  token : Token
  responses : List ScriptedResponse
  current : ScriptedResponse
  cursor : Cursor
  advances : Nat
  calls : List Request

def emptyResponse : ScriptedResponse := ⟨none, [], none, false, .noCurrentRow⟩

def start (script : Script) (token : Token) : State :=
  ⟨script, token, script.responses, emptyResponse, .ofRows [], 0, []⟩

namespace State

def record (state : State) (request : Request) : State :=
  let token := if state.script.cancelAt == some state.calls.length then state.token.cancel else state.token
  { state with token := token, calls := request :: state.calls }

/-- Takes the next response, which answers statements with nothing where the script has ended. -/
def next (state : State) : ScriptedResponse × State :=
  match state.responses with
  | [] => (emptyResponse, state)
  | response :: rest => (response, { state with responses := rest })

def outcome (error : Option StatementError) (result : α) : Except StatementError α :=
  match error with
  | some error => .error error
  | none => .ok result

def answer : (request : Request) → State → request.Response × State
  | .begin, state => (outcome state.script.begin (), state.record .begin)
  | .execute statement parameters, state =>
      let (response, state) := (state.record (.execute statement parameters)).next
      (outcome response.error (), state)
  | .query statement parameters, state =>
      let (response, state) := (state.record (.query statement parameters)).next
      (outcome response.error response.rows.length,
        { state with current := response, cursor := .ofRows response.rows, advances := 0 })
  | .advance limit, state =>
      let state := state.record (.advance limit)
      if state.current.failAdvance == some state.advances then
        (.error state.current.cursorError, { state with advances := state.advances + 1 })
      else
        let (moved, cursor) := state.cursor.advance .live
        (moved.map (Request.advanced limit), { state with cursor := cursor, advances := state.advances + 1 })
  | .scan, state =>
      let state := state.record .scan
      (if state.current.failScan then .error state.current.cursorError else state.cursor.scan, state)
  | .close, state => ((), state.record .close)
  | .commit, state => (outcome state.script.commit (), state.record .commit)
  | .rollback, state => (outcome state.script.rollback (), state.record .rollback)
  | .check, state => (state.token.check, state)

end State

def store : Store State := ⟨State.answer⟩

end Script
end EntityStore
