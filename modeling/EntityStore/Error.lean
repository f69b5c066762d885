import EntityStore.Codec
import EntityStore.Engine.Error

/-! Failures of statements, operations and connections. A failure of an operation may be a composite, which
keeps every cause in order. Each error has a message and at most one error below it as its source. -/

namespace EntityStore

inductive StatementError where
  | engine (cause : EngineError)
  | cancelled
  | deadlineExceeded
  | noCurrentRow
  /-- Reported by a store that is not the engine. -/
  | backend (text : String)
  deriving DecidableEq, Repr

def StatementError.message : StatementError → String
  | .engine cause => cause.message
  | .cancelled => "operation cancelled"
  | .deadlineExceeded => "operation deadline exceeded"
  | .noCurrentRow => "cursor is not positioned on a row"
  | .backend text => text

inductive CrudError where
  | notFound (table id : String)
  | codec (cause : CodecError)
  | statement (cause : StatementError)
  | composite (primary : CrudError) (others : List CrudError)
  deriving Repr

namespace CrudError

mutual

/-- The message of a composite holds those of its causes, one after the other. -/
def message : CrudError → String
  | .notFound table id => "no row in `" ++ table ++ "` with id `" ++ id ++ "`"
  | .codec cause => cause.message
  | .statement cause => cause.message
  | .composite primary others => primary.message ++ furtherMessages others

def furtherMessages : List CrudError → String
  | [] => ""
  | cause :: rest => "\n" ++ cause.message ++ furtherMessages rest

end

mutual

/-- Whether an absent row is the cause or among the causes. -/
def isNotFound : CrudError → Bool
  | .notFound .. => true
  | .codec _ | .statement _ => false
  | .composite primary others => primary.isNotFound || anyNotFound others

def anyNotFound : List CrudError → Bool
  | [] => false
  | cause :: rest => cause.isNotFound || anyNotFound rest

end

/-- The present errors as one composite, even where there is only one. -/
def combine (errors : List (Option CrudError)) : Option CrudError :=
  match errors.filterMap id with
  | [] => none
  | primary :: others => some (.composite primary others)

end CrudError

/-- Failures of opening, migrating and checking a database. -/
inductive DbError where
  | engine (cause : EngineError)
  | unsupportedVersion (found latest : Nat)
  | uninitialized (expected actual : Nat)
  | missingTable (table : String)
  | missingColumn (table column : String)
  deriving DecidableEq, Repr

def DbError.message : DbError → String
  | .engine cause => cause.message
  | .unsupportedVersion found latest =>
      "database schema version " ++ Text.Decimal.text found ++ " is newer than supported " ++ Text.Decimal.text latest
  | .uninitialized expected actual =>
      "connection schema version " ++ Text.Decimal.text actual ++ " does not match expected " ++
        Text.Decimal.text expected ++ "; open it with open_db"
  | .missingTable table => "required table `" ++ table ++ "` is missing"
  | .missingColumn table column => "required column `" ++ table ++ "." ++ column ++ "` is missing"

/-- An error as it stands in a chain of sources. A composite stands there on its own, below the operation's
failure that carries it. -/
inductive ErrorLink where
  | engine (cause : EngineError)
  | codec (cause : CodecError)
  | statement (cause : StatementError)
  | crud (cause : CrudError)
  | composite (primary : CrudError) (others : List CrudError)
  | db (cause : DbError)

namespace ErrorLink

def message : ErrorLink → String
  | .engine cause => cause.message
  | .codec cause => cause.message
  | .statement cause => cause.message
  | .crud cause => cause.message
  | .composite primary others => (CrudError.composite primary others).message
  | .db cause => cause.message

def source : ErrorLink → Option ErrorLink
  | .statement (.engine cause) | .db (.engine cause) => some (.engine cause)
  | .crud (.codec cause) => some (.codec cause)
  | .crud (.statement cause) => some (.statement cause)
  | .crud (.composite primary others) => some (.composite primary others)
  | .composite primary _ => some (.crud primary)
  | .engine _ | .codec _ | .statement _ | .crud (.notFound ..) | .db _ => none

/-- How many composites lie above the first cause that is none. -/
def depth : CrudError → Nat
  | .composite primary _ => depth primary + 1
  | .notFound .. | .codec _ | .statement _ => 0

/-- Bounds the number of errors below. -/
def height : ErrorLink → Nat
  | .engine _ | .codec _ => 0
  | .statement _ | .db _ => 1
  | .crud cause => 2 * depth cause + 2
  | .composite primary _ => 2 * depth primary + 3

theorem height_source (link below : ErrorLink) (found : link.source = some below) : below.height < link.height := by
  unfold source at found
  split at found <;> grind [height, depth]

/-- The errors below, each the source of the one before. -/
def sources (link : ErrorLink) : List ErrorLink :=
  match _found : link.source with
  | none => []
  | some below => below :: below.sources
termination_by link.height
decreasing_by exact height_source link below _found

end ErrorLink
end EntityStore
