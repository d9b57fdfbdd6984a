import Rollup.Word
import Rollup.Request.Basic
import Rollup.Json.Printer
/-!
Why a request has no statement: it lacks what every statement needs, or one of its parts cannot be
expressed.
-/
namespace Rollup

/-- What every request must have. -/
inductive ValidationError where
  | missingTable
  | missingMeasures
  deriving Repr, DecidableEq

def ValidationError.message : ValidationError → String
  | missingTable => "Table name is required"
  | missingMeasures => "At least one measure is required"

/-- The two numbers that page a result. -/
inductive PageBound where
  | limit
  | offset
  deriving Repr, DecidableEq

def PageBound.name : PageBound → String
  | limit => "limit"
  | offset => "offset"

/-- The greatest page bound, the greatest signed number of sixty-four bits. -/
def PageBound.greatest : Nat := Word.greatestSigned

inductive CompileError where
  | betweenArity (field : String) (got : Nat)
  | emptyValueList (field : String) (kind : FilterKind)
  | unexpectedValueList (field : String) (kind : FilterKind) (got : Nat)
  | missingOperand (field : String) (kind : FilterKind)
  | invalidLiteral (field : String) (tag : Tag) (value : Json)
  | invalidDirection (field : String) (direction : String)
  | invalidFormat (field : String) (format : String)
  | pageOutOfRange (bound : PageBound) (value : Nat)
  deriving Repr, DecidableEq

def CompileError.message : CompileError → String
  | betweenArity field got =>
    "Between filter on '" ++ field ++ "' needs exactly 2 values, got " ++ toString got
  | emptyValueList field kind => kind.name ++ " filter on '" ++ field ++ "' has an empty value list"
  | unexpectedValueList field kind got =>
    kind.name ++ " filter on '" ++ field ++ "' takes a single value, got a list of " ++ toString got
  | missingOperand field kind => kind.name ++ " filter on '" ++ field ++ "' has no filterValue"
  | invalidLiteral field tag value =>
    "Invalid " ++ tag.name ++ " literal for '" ++ field ++ "': " ++ value.compact
  | invalidDirection field direction =>
    "Invalid sort direction for '" ++ field ++ "': " ++ direction ++ " (use asc or desc)"
  | invalidFormat field format =>
    "Invalid date format for dimension '" ++ field ++ "': " ++ format
  | pageOutOfRange bound value =>
    bound.name ++ " " ++ toString value ++ " is out of range (max " ++
      toString PageBound.greatest ++ ")"

/-- Why a request is rejected. -/
inductive Rejection where
  | invalid (why : ValidationError)
  | uncompilable (why : CompileError)
  deriving Repr, DecidableEq

def Rejection.message : Rejection → String
  | invalid why => "Validation error: " ++ why.message
  | uncompilable why => "Compile error: " ++ why.message

end Rollup
