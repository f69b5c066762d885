import EntityStore.Event
import EntityStore.Text.Blank

/-! Settings of the log: a level and an absolute directory. Blanks around both are dropped and letter case does not
matter to a level. -/

namespace EntityStore.Logging

inductive SettingsError where
  | unknownLevel (word : String)
  | emptyDirectory
  | relativeDirectory (path : String)
  deriving DecidableEq, Repr

def SettingsError.message : SettingsError → String
  | .unknownLevel word => "unknown log level `" ++ word ++ "`; use trace, debug, info, warn or error"
  | .emptyDirectory => "log directory is empty"
  | .relativeDirectory path => "log directory must be absolute, got `" ++ path ++ "`"

structure Settings where
  level : Level
  /-- As given, without the blanks around it. -/
  directory : String
  deriving DecidableEq, Repr

/-- The ASCII letters in lower case, all else as it is. -/
def lower (text : String) : String := String.ofList (text.toList.map Char.toLower)

def level? (word : String) : Option Level :=
  if word = "warning" then some .warn
  else [Level.trace, .debug, .info, .warn, .error].find? (·.word == word)

/-- The parts of a path that tell directories apart. -/
def components (path : String) : List String := (path.splitOn "/").filter fun part => part != "" && part != "."

def parseDirectory (directory : String) : Except SettingsError String :=
  let path := Text.Blank.trim directory
  if path.isEmpty then .error .emptyDirectory
  else if path.toList.head? = some '/' then .ok path
  else .error (.relativeDirectory path)

/-- The level is judged before the directory. -/
def Settings.parse (level directory : String) : Except SettingsError Settings := do
  let word := lower (Text.Blank.trim level)
  match level? word with
  | none => .error (.unknownLevel word)
  | some level => return ⟨level, ← parseDirectory directory⟩

/-- Why settings in use cannot give way to others. -/
inductive Conflict where
  | directory (current requested : String)
  | level (current requested : Level)
  deriving DecidableEq, Repr

def Conflict.message : Conflict → String
  | .directory current requested =>
      "logging already writes to `" ++ current ++ "`; refusing to switch to `" ++ requested ++ "`"
  | .level current requested =>
      "logging already runs at `" ++ current.word ++ "`; refusing to switch to `" ++ requested.word ++ "`"

/-- Directories are compared by their parts, and before the levels. -/
def Settings.conflict? (current requested : Settings) : Option Conflict :=
  if components current.directory ≠ components requested.directory then
    some (.directory current.directory requested.directory)
  else if current.level ≠ requested.level then some (.level current.level requested.level)
  else none

end EntityStore.Logging
