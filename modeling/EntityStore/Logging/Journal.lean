import EntityStore.Logging.Settings
import EntityStore.Logging.Sink
import EntityStore.Session

/-! The journal of a running program. It starts once, at the first settings that are valid, whose directory can be made
and that the file logger takes, and from then on other settings are refused. Events are written from the start on, if
their level is high enough, and panics are reported from the start on too. -/

namespace EntityStore.Logging

structure Active where
  settings : Settings
  sink : Sink
  deriving DecidableEq, Repr

/-- The files that the program sees, and the log once it has started. -/
structure Journal where
  tree : FileTree
  active : Option Active
  deriving DecidableEq, Repr

inductive StartError where
  | settings (cause : SettingsError)
  | directory (path : String) (cause : FileError)
  | logger (cause : String)
  | conflict (cause : Conflict)
  deriving DecidableEq, Repr

def StartError.message : StartError → String
  | .settings cause => cause.message
  | .directory path cause => "cannot create log directory `" ++ path ++ "`: " ++ cause.message
  | .logger cause => "cannot start logger: " ++ cause
  | .conflict cause => cause.message

/-- What a panic carries. -/
inductive Payload where
  | text (content : String)
  | other
  deriving DecidableEq, Repr

def payloadLimit : Nat := 120

/-- The payload as one line of limited length. -/
def oneLine (limit : Nat) (text : String) : String :=
  let flat := text.toList.map fun c => if c = '\n' ∨ c = '\r' then ' ' else c
  if flat.length ≤ limit then String.ofList flat else String.ofList (flat.take limit ++ "...".toList)

def Payload.event : Payload → Event
  | .text content => .panicked (oneLine payloadLimit content)
  | .other => .panicked (oneLine payloadLimit "non-string payload")

/-- Why an exercise of the database stops. -/
inductive ExerciseError where
  | opening (cause : DbError)
  | call (cause : CrudError)

namespace Journal

/-- Before the start, in a directory that is there. -/
def fresh (place : List String) : Journal := ⟨FileTree.empty.put place .directory, none⟩

def log (journal : Journal) (event : Event) : Journal :=
  match journal.active with
  | none => journal
  | some active =>
      if event.level.rank < active.settings.level.rank then journal
      else
        let (sink, tree) := active.sink.write journal.tree event
        ⟨tree, some { active with sink := sink }⟩

def logAll (journal : Journal) (events : List Event) : Journal := events.foldl log journal

/-- Starts the log with settings, unless its directory cannot be made or the file logger fails. -/
def activate (journal : Journal) (logger : Except String Unit) (settings : Settings) :
    Except StartError Active × Journal :=
  let (made, tree) := journal.tree.makeNamed settings.directory
  let refuse (error : StartError) : Except StartError Active × Journal := (.error error, { journal with tree := tree })
  match made with
  | .error cause => refuse (.directory settings.directory cause)
  | .ok () =>
      match logger with
      | .error cause => refuse (.logger cause)
      | .ok () =>
          match tree.walk [] (FileTree.steps settings.directory) with
          | .error cause => refuse (.directory settings.directory cause)
          | .ok place =>
              let active : Active := ⟨settings, ⟨place, none⟩⟩
              (.ok active, log ⟨tree, some active⟩ (.loggingStarted settings.level settings.directory))

/-- The log that is in use, started if there is none yet. -/
def activeOr (journal : Journal) (logger : Except String Unit) (settings : Settings) :
    Except StartError Active × Journal :=
  match journal.active with
  | some active => (.ok active, journal)
  | none => journal.activate logger settings

/-- Settings may be used if they are those in use, or come to be. -/
def startWith (journal : Journal) (logger : Except String Unit) (settings : Settings) :
    Except StartError Unit × Journal :=
  match journal.activeOr logger settings with
  | (.error error, journal) => (.error error, journal)
  | (.ok active, journal) =>
      match active.settings.conflict? settings with
      | some conflict => (.error (.conflict conflict), journal)
      | none => (.ok (), journal)

def start (journal : Journal) (logger : Except String Unit) (level directory : String) :
    Except StartError Unit × Journal :=
  match Settings.parse level directory with
  | .error cause => (.error (.settings cause), journal)
  | .ok settings => journal.startWith logger settings

def status (journal : Journal) : Option Settings := journal.active.map (·.settings)

def panic (journal : Journal) (payload : Payload) : Journal := journal.log payload.event

def exercise (id : String) : Except ExerciseError Unit × List Event :=
  match OpenMode.memory.run .empty with
  | (.error error, events) => (.error (.opening error), events)
  | (.ok connection, events) =>
      calls events (.ofConnection connection .live) [.create ⟨id⟩, .read id, .delete id]
where
  calls (events : List Event) (attached : Engine.Attached) :
      List (Call GirlScout) → Except ExerciseError Unit × List Event
    | [] => (.ok (), events)
    | call :: rest =>
        match GirlScout.mapping.perform Engine.Attached.store call attached with
        | (.ok _, logged, attached) => calls (events ++ logged) attached rest
        | (.error error, logged, _) => (.error (.call error), events ++ logged)

def makeDirectory (journal : Journal) (path : String) : Journal :=
  { journal with tree := (journal.tree.makeNamed path).2 }

/-- Writes a file of a text repeated. -/
def touch (journal : Journal) (path text : String) (times : Nat) : Journal :=
  let steps := FileTree.steps path
  match journal.tree.walk [] steps.dropLast, steps.getLast? with
  | .ok place, some name =>
      { journal with
        tree := journal.tree.put (FileTree.walkStep place name) (.file (String.join (List.replicate times text))) }
  | _, _ => journal

end Journal
end EntityStore.Logging
