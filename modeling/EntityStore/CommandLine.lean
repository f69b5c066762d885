import EntityStore.Engine.Store
import EntityStore.Json.Scout
import EntityStore.Json.Text
import EntityStore.Opening
import EntityStore.Readiness
import EntityStore.Repository

/-! The command line: one scout is written to a database in memory, read back and shown. -/

namespace EntityStore.CommandLine

open Engine (Attached)

structure Result where
  code : Nat
  output : List String
  errors : List String
  deriving DecidableEq, Repr

inductive Failure where
  | database (cause : DbError)
  | call (cause : CrudError)

def Failure.message : Failure → String
  | .database cause => cause.message
  | .call cause => cause.message

def scout (id : String) : BoyScout :=
  { id := id, fullName := "Probe Scout", rank := .tenderfoot, badges := [.knots], campingTrips := [⟨2024, 6, 1⟩] }

def roundTrip (id : String) : Except Failure BoyScout := do
  let connection ← (OpenMode.memory.run .empty).1.mapError .database
  (connection.requireReady BoyScout.schema).mapError .database
  let (created, attached) :=
    (BoyScout.mapping.create (scout id)).run.run Attached.store (.ofConnection connection .live)
  created.mapError .call
  let (found, _) := (BoyScout.mapping.read id).run.run Attached.store attached
  found.mapError .call

/-- Prints the version and then the scout, whose id is given. -/
def run (id : String) : Result :=
  let heading := "tablecrud_core version=" ++ version
  match roundTrip id with
  | .ok found => ⟨0, [heading, (Shape.toJson found).pretty 0], []⟩
  | .error failure => ⟨1, [heading], ["round trip failed: " ++ failure.message]⟩

end EntityStore.CommandLine
