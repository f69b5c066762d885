import EntityStore.Proofs.Engine.Wrapping

/-! The engine under a token that may be cancelled or expire at any time. Statements, commits and steps of a cursor look
at the token first, and a query looks at it again with every row that it fetches. A sequence of tokens says what each of
these looks sees. -/

namespace EntityStore.Engine

/-- A transaction with its cursor, and how often its token has been looked at. -/
structure Lapsing where
  attached : Attached
  looks : Nat

namespace Lapsing

abbrev connection (lapsing : Lapsing) : Connection := lapsing.attached.connection

def looksOf : Request → Nat
  | .begin | .execute .. | .query .. | .advance _ | .commit | .check => 1
  | .scan | .close | .rollback => 0

variable (tokens : Nat → Token)

/-- The transaction under the token that it sees next. -/
def facing (lapsing : Lapsing) : Attached :=
  { lapsing.attached with transaction := { lapsing.attached.transaction with token := tokens lapsing.looks } }

def fetch : Nat → Nat → Except StatementError Unit × Nat
  | 0, looks => (.ok (), looks)
  | rows + 1, looks =>
      match (tokens looks).check with
      | .ok () => fetch rows (looks + 1)
      | .error error => (.error error, looks + 1)

/-- What comes of an answer of the engine, given the looks before. Only the rows of a query are still to be fetched. -/
def hear : (request : Request) → request.Response → Nat → request.Response × Nat
  | .query .., .ok rows, looks =>
      let (fetched, looks) := fetch tokens rows looks
      (fetched.map fun _ => rows, looks)
  | _, response, looks => (response, looks)

def answer (request : Request) (lapsing : Lapsing) : request.Response × Lapsing :=
  let answered := Attached.answer request (lapsing.facing tokens)
  let heard := hear tokens request answered.1 (lapsing.looks + looksOf request)
  (heard.1, ⟨answered.2, heard.2⟩)

def store : Store Lapsing := ⟨answer tokens⟩

theorem wraps : Wraps (store tokens) connection := by
  intro request lapsing
  have effect := Attached.wraps request (lapsing.facing tokens)
  change Effect request (answer tokens request lapsing).1 lapsing.connection (answer tokens request lapsing).2.connection
  unfold answer
  change Effect request (Attached.answer request (lapsing.facing tokens)).1 lapsing.connection
    (Attached.answer request (lapsing.facing tokens)).2.connection at effect
  generalize Attached.answer request (lapsing.facing tokens) = answered at effect ⊢
  rcases answered with ⟨response, after⟩
  cases request with
  | query statement parameters =>
    cases response with
    | error error => exact effect
    | ok rows =>
      obtain ⟨found, ran⟩ := effect
      simp only [hear]
      generalize fetch tokens rows _ = fetched
      rcases fetched with ⟨_ | _, looks⟩
      · exact .inr (congrArg Prod.snd ran).symm
      · exact ⟨found, ran⟩
  | begin | execute _ _ | advance _ | scan | close | commit | rollback | check => exact effect

end Lapsing
end EntityStore.Engine
