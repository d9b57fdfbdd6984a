import Rollup.Store.Cell
/-!
Why a database does not answer.
-/
namespace Rollup.Store

/-- The functions that a database knows beyond the aggregates. -/
inductive ScalarFunction where
  | dateTrunc
  | toChar
  deriving Repr, DecidableEq

def ScalarFunction.name : ScalarFunction → String
  | dateTrunc => "DATE_TRUNC"
  | toChar => "TO_CHAR"

/-- Why a database refuses or fails a statement. -/
inductive DatabaseError where
  | noSuchTable (name : String)
  | noSuchColumn (name : String)
  | tableExists (name : String)
  | duplicateColumn (name : String)
  | wrongValueCount (table : String) (columns values : Nat)
  | unevenRows
  | aggregateAlias (name : String)
  | wrongArgumentCount (function : ScalarFunction)
  | wrongParameterKind (kind : Kind) (index : Nat)
  | timestampOutOfRange (seconds : Int)
  | unreadableTimestamp (text : String)
  | unsupportedTimestamp (kind : Kind)
  /-- A function gave up without an answer. -/
  | aborted
  | integerOverflow
  | invalidParameterName (name : String)
  deriving Repr, DecidableEq

def DatabaseError.message : DatabaseError → String
  | noSuchTable name => "no such table: " ++ name
  | noSuchColumn name => "no such column: " ++ name
  | tableExists name => "table " ++ name ++ " already exists"
  | duplicateColumn name => "duplicate column name: " ++ name
  | wrongValueCount table columns values =>
    "table " ++ table ++ " has " ++ toString columns ++ " columns but " ++ toString values ++
      " values were supplied"
  | unevenRows => "all VALUES must have the same number of terms"
  | aggregateAlias name => "misuse of aliased aggregate " ++ name
  | wrongArgumentCount function =>
    "wrong number of arguments to function " ++ function.name ++ "()"
  | wrongParameterKind kind index =>
    "Invalid function parameter type " ++ kind.name ++ " at index " ++ toString index
  | timestampOutOfRange seconds => "timestamp out of range: " ++ toString seconds
  | unreadableTimestamp text => "cannot parse timestamp: " ++ text
  | unsupportedTimestamp kind => "unsupported timestamp type: " ++ kind.name
  | aborted => "unwinding panic"
  | integerOverflow => "integer overflow"
  | invalidParameterName name => "Invalid parameter name: " ++ name

/-- Why a query has no answer. -/
inductive ExecutionError where
  | database (why : DatabaseError)
  | io (message : String)
  | lock (message : String)
  | task (message : String)
  deriving Repr, DecidableEq

def ExecutionError.message : ExecutionError → String
  | database why => "Database error: " ++ why.message
  | io message => "IO error: " ++ message
  | lock message => "Lock error: " ++ message
  | task message => "Task error: " ++ message

end Rollup.Store
