import EntityStore.Text.Decimal

/-! Why the engine refuses a statement, and in which words. -/

namespace EntityStore

inductive EngineError where
  | noRows
  | noSuchTable (table : String)
  | noSuchColumn (column : String)
  | tableHasNoColumn (table column : String)
  | tooManyVariables
  | syntaxErrorNear (token : String)
  | unrecognizedToken (token : String)
  /-- A cause that the text of a statement shows at an offset in octets. -/
  | located (cause : EngineError) (text : String) (offset : Nat)
  | parameterCount (given needed : Nat)
  | returnedRows
  | datatypeMismatch
  | notNull (table column : String)
  | unique (table : String) (columns : List String)
  | foreignKey
  | foreignKeyMismatch (child parent : String)
  | viewIsReadOnly (view : String)
  | tableIsReadOnly (table : String)
  | nestedTransaction
  | noTransaction (action : String)
  | tableExists (table : String)
  | viewExists (view : String)
  | nameTaken (name : String)
  | nameReserved (name : String)
  | cannotDropKey (column : String)
  | cannotDropUnique (column : String)
  | cannotDropOnly (column : String)
  | duplicateColumn (table column : String)
  | droppingView (view : String)
  | droppingTable (table : String)
  | alteringView (view : String)
  | alteringTable (table : String)
  | droppingViewColumn (view : String)
  | renamingViewColumn (view : String)
  | notAFunction (name : String)
  | integerOutOfRange (value : Int) (column : Nat)
  /-- The path is named where the file could not even be looked for. -/
  | cannotOpen (path : Option String)
  | notADatabase
  | malformed
  | malformedSchema (name : String) (detail : Option String)
  | unsupportedFormat
  deriving DecidableEq, Repr

namespace EngineError
open Text

def message : EngineError → String
  | .noRows => "Query returned no rows"
  | .noSuchTable table => "no such table: " ++ table
  | .noSuchColumn column => "no such column: " ++ column
  | .tableHasNoColumn table column => "table " ++ table ++ " has no column named " ++ column
  | .tooManyVariables => "too many SQL variables"
  | .syntaxErrorNear token => "near \"" ++ token ++ "\": syntax error"
  | .unrecognizedToken token => "unrecognized token: \"" ++ token ++ "\""
  | .located cause text offset => cause.message ++ " in " ++ text ++ " at offset " ++ Decimal.text offset
  | .parameterCount given needed =>
      "Wrong number of parameters passed to query. Got " ++ Decimal.text given ++ ", needed " ++ Decimal.text needed
  | .returnedRows => "Execute returned results - did you mean to call query?"
  | .datatypeMismatch => "datatype mismatch"
  | .notNull table column => "NOT NULL constraint failed: " ++ table ++ "." ++ column
  | .unique table columns =>
      "UNIQUE constraint failed: " ++ ", ".intercalate (columns.map fun column => table ++ "." ++ column)
  | .foreignKey => "FOREIGN KEY constraint failed"
  | .foreignKeyMismatch child parent =>
      "foreign key mismatch - \"" ++ child ++ "\" referencing \"" ++ parent ++ "\""
  | .viewIsReadOnly view => "cannot modify " ++ view ++ " because it is a view"
  | .tableIsReadOnly table => "table " ++ table ++ " may not be modified"
  | .nestedTransaction => "cannot start a transaction within a transaction"
  | .noTransaction action => "cannot " ++ action ++ " - no transaction is active"
  | .tableExists table => "table " ++ table ++ " already exists"
  | .viewExists view => "view " ++ view ++ " already exists"
  | .nameTaken name => "there is already another table or index with this name: " ++ name
  | .nameReserved name => "object name reserved for internal use: " ++ name
  | .cannotDropKey column => "cannot drop PRIMARY KEY column: \"" ++ column ++ "\""
  | .cannotDropUnique column => "cannot drop UNIQUE column: \"" ++ column ++ "\""
  | .cannotDropOnly column => "cannot drop column \"" ++ column ++ "\": no other columns exist"
  | .duplicateColumn table column => "error in table " ++ table ++ " after rename: duplicate column name: " ++ column
  | .droppingView view => "use DROP VIEW to delete view " ++ view
  | .droppingTable table => "table " ++ table ++ " may not be dropped"
  | .alteringView view => "view " ++ view ++ " may not be altered"
  | .alteringTable table => "table " ++ table ++ " may not be altered"
  | .droppingViewColumn view => "cannot drop column from view \"" ++ view ++ "\""
  | .renamingViewColumn view => "cannot rename columns of view \"" ++ view ++ "\""
  | .notAFunction name => "'" ++ name ++ "' is not a function"
  | .integerOutOfRange value column =>
      "Integer " ++ Decimal.text value ++ " out of range at index " ++ Decimal.text column
  | .cannotOpen path => "unable to open database file" ++ path.elim "" (": " ++ ·)
  | .notADatabase => "file is not a database"
  | .malformed => "database disk image is malformed"
  | .malformedSchema name detail => "malformed database schema (" ++ name ++ ")" ++ detail.elim "" (" - " ++ ·)
  | .unsupportedFormat => "unsupported file format"

end EngineError
end EntityStore
