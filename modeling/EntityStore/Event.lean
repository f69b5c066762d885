import EntityStore.Error

/-! Events for the log. An event names what was done and never what was stored. Durations and places in the
program are not measured and stand as underscores. -/

namespace EntityStore

inductive Level where
  | trace | debug | info | warn | error
  deriving DecidableEq, Repr

namespace Level

/-- Severity, the least first. -/
def rank : Level → Nat
  | .trace => 0
  | .debug => 1
  | .info => 2
  | .warn => 3
  | .error => 4

def word : Level → String
  | .trace => "trace"
  | .debug => "debug"
  | .info => "info"
  | .warn => "warn"
  | .error => "error"

def label : Level → String
  | .trace => "TRACE"
  | .debug => "DEBUG"
  | .info => "INFO"
  | .warn => "WARN"
  | .error => "ERROR"

end Level

def version : String := "0.1.0"

/-- Where opening a database fails: before there is a connection, or while it is prepared. -/
inductive OpenStage where
  | connect
  | bootstrap
  deriving DecidableEq, Repr

def OpenStage.code : OpenStage → String
  | .connect => "db_open_failed"
  | .bootstrap => "db_bootstrap_failed"

inductive Event where
  | created (table : String)
  | read (table : String)
  | updated (table : String) (masked : Bool)
  | deleted (table : String)
  | opening (mode : String)
  | opened (mode : String)
  | openFailed (mode : String) (stage : OpenStage) (error : DbError)
  | stepApplied (version : Nat) (name : String)
  | migrated (source target : Nat)
  | loggingStarted (level : Level) (directory : String)
  | panicked (payload : String)
  deriving DecidableEq, Repr

namespace Event
open Text

def level : Event → Level
  | .created _ | .read _ | .updated .. | .deleted _ | .stepApplied .. => .debug
  | .opening _ | .opened _ | .migrated .. | .loggingStarted .. => .info
  | .openFailed .. | .panicked _ => .error

def target : Event → String
  | .created _ | .read _ | .updated .. | .deleted _ => "tablecrud_core::repo::mapper"
  | .opening _ | .opened _ | .openFailed .. => "tablecrud_core::db::open"
  | .stepApplied .. | .migrated .. => "tablecrud_core::db::migrations"
  | .loggingStarted .. | .panicked _ => "tablecrud_core::logging"

def entity (what details : String) : String :=
  "event=entity_" ++ what ++ " module=repo status=ok table=" ++ details ++ " duration_ms=_"

def message : Event → String
  | .created table => entity "create" table
  | .read table => entity "read" table
  | .updated table masked => entity "update" (table ++ " masked=" ++ (if masked then "true" else "false"))
  | .deleted table => entity "delete" table
  | .opening mode => "event=db_open module=db status=start mode=" ++ mode
  | .opened mode => "event=db_open module=db status=ok mode=" ++ mode ++ " duration_ms=_"
  | .openFailed mode stage error =>
      "event=db_open module=db status=error mode=" ++ mode ++ " duration_ms=_ error_code=" ++ stage.code ++
        " error=" ++ error.message
  | .stepApplied version name =>
      "event=db_migrate_step module=db status=ok version=" ++ Decimal.text version ++ " name=" ++ name
  | .migrated source target =>
      "event=db_migrate module=db status=ok from_version=" ++ Decimal.text source ++ " to_version=" ++
        Decimal.text target
  | .loggingStarted level directory =>
      "event=logging_init module=core status=ok version=" ++ version ++ " level=" ++ level.word ++ " log_dir=" ++
        directory
  | .panicked payload => "event=panic module=core status=error location=_ payload=" ++ payload

end Event
end EntityStore
