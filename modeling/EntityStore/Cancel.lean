import EntityStore.Error

/-! Cancellation. Tokens cloned from one another form a family with one flag, and each token keeps the deadline
its family was created with. A set flag is reported before a passed deadline. -/

namespace EntityStore

/-- What an operation sees of its token at one moment. -/
structure Token where
  cancelled : Bool
  expired : Bool
  deriving DecidableEq, Repr

namespace Token

def live : Token := ⟨false, false⟩

def cancel (token : Token) : Token := { token with cancelled := true }

def check (token : Token) : Except StatementError Unit :=
  if token.cancelled then .error .cancelled
  else if token.expired then .error .deadlineExceeded
  else .ok ()

end Token

/-- A token as its holder keeps it: the family whose flag it shares, and its deadline in seconds. -/
structure Handle where
  family : Nat
  deadline : Option Int
  deriving DecidableEq, Repr

/-- The flags of all families and the tokens in the order of their making. -/
structure Tokens where
  flags : List Bool
  handles : List Handle
  deriving DecidableEq, Repr

inductive TokenStep where
  | create (token : Option Int) (cancelled : Bool)
  | timeout (seconds : Nat)
  | clone (index : Nat)
  | cancel (index : Nat)
  | isCancelled (index : Nat)
  | check (index : Nat)
  deriving DecidableEq, Repr

inductive TokenReply where
  | made (index : Nat)
  | done
  | flag (cancelled : Bool)
  | checked (outcome : Except StatementError Unit)

/-- The clock cannot name the moment that a timeout ends. -/
inductive ClockOverflow where
  | overflow

def ClockOverflow.message (_ : ClockOverflow) : String := "overflow when adding duration to instant"

namespace Tokens

def empty : Tokens := ⟨[], []⟩

def view (tokens : Tokens) (now : Int) (handle : Handle) : Token where
  cancelled := (tokens.flags[handle.family]?).getD false
  expired := handle.deadline.any (· ≤ now)

/-- A new family with its first token. -/
def create (tokens : Tokens) (deadline : Option Int) (cancelled : Bool) : Tokens where
  flags := tokens.flags ++ [cancelled]
  handles := tokens.handles ++ [⟨tokens.flags.length, deadline⟩]

/-- One step at a moment. A step on a token that is not there changes nothing. -/
def step (tokens : Tokens) (now : Int) : TokenStep → Except ClockOverflow (TokenReply × Tokens)
  | .create deadline cancelled => .ok (.made tokens.handles.length, tokens.create deadline cancelled)
  | .timeout seconds =>
      if now + seconds ∈ IntRange.signed64 then
        .ok (.made tokens.handles.length, tokens.create (some (now + seconds)) false)
      else .error .overflow
  | .clone index =>
      match tokens.handles[index]? with
      | some handle => .ok (.made tokens.handles.length, { tokens with handles := tokens.handles ++ [handle] })
      | none => .ok (.done, tokens)
  | .cancel index =>
      match tokens.handles[index]? with
      | some handle => .ok (.done, { tokens with flags := tokens.flags.set handle.family true })
      | none => .ok (.done, tokens)
  | .isCancelled index =>
      match tokens.handles[index]? with
      | some handle => .ok (.flag (tokens.view now handle).cancelled, tokens)
      | none => .ok (.done, tokens)
  | .check index =>
      match tokens.handles[index]? with
      | some handle => .ok (.checked (tokens.view now handle).check, tokens)
      | none => .ok (.done, tokens)

end Tokens
end EntityStore
