import Rollup.Statement.Error
import Rollup.Calendar.Printer
import Rollup.Calendar.Reader
/-!
Parameters: the values that a statement's placeholders stand for, and how literals become them.
-/
namespace Rollup

inductive Param where
  | null
  | bool (value : Bool)
  | integer (value : Int)
  | real (value : Float)
  | text (value : String)
  | timestamp (value : Calendar.Instant)
  deriving Repr, DecidableEq, Inhabited

namespace Param

/-- Reals are displayed without an exponent part and without a mark of integral values. -/
def realLayout : Double.Layout where
  positional _ := true
  integralMark := ""

def realText (x : Float) : String :=
  if Double.isFinite x then realLayout.write x
  else if x.isNaN then "NaN"
  else if Double.isNegative x then "-inf"
  else "inf"

/-- A parameter as it is shown to people. -/
def display : Param → String
  | null => "null"
  | bool b => if b then "true" else "false"
  | integer i => toString i
  | real x => realText x
  | text s => s
  | timestamp t => t.text

def toJson : Param → Json
  | null => .null
  | bool b => .bool b
  | integer i => .number (.int i)
  | real x => .number (.float x)
  | text s => .text s
  | timestamp t => .text t.text

/-- Parameters as they are shown to people. -/
def displayAll (ps : List Param) : String := "[" ++ ", ".intercalate (ps.map display) ++ "]"

def listToJson (ps : List Param) : Json := .list (ps.map toJson)

/-! ### Literals as parameters -/

/-- The text of a value that is neither null nor made of other values. -/
def scalarText? : Json → Option String
  | .text s => some s
  | .number n => some n.print
  | .bool b => some (if b then "true" else "false")
  | _ => none

/-- A number of a column, from a numeral. -/
def integerOfText? (s : String) : Option Int :=
  (Double.readInteger? s).filter fun i => decide (Word.IsSigned i)

def integerOfJson? : Json → Option Param
  | .number (.int i) => if Word.IsSigned i then some (integer i) else none
  | .text s => (integerOfText? (Text.trim s)).map integer
  | _ => none

/-- Numbers are integers where they can be, reals otherwise. -/
def numberOfJson? : Json → Option Param
  | .number (.int i) =>
    if Word.IsSigned i then some (integer i) else some (real (Float.ofInt i))
  | .number (.float x) => some (real x)
  | .text s =>
    let s := Text.trim s
    (integerOfText? s).map integer <|> (Double.read? s).map real
  | _ => none

def booleanOfName? (s : String) : Option Bool :=
  let name := Text.fold (Text.trim s)
  if name = "true" ∨ name = "1" then some true
  else if name = "false" ∨ name = "0" then some false
  else none

def booleanOfJson? : Json → Option Param
  | .bool b => some (bool b)
  | .number (.int 0) => some (bool false)
  | .number (.int 1) => some (bool true)
  | .text s => (booleanOfName? s).map bool
  | _ => none

def timestampOfJson? : Json → Option Param
  | .text s => (Calendar.Instant.ofText? s).map timestamp
  | _ => none

/-- A value read as its tag says. -/
def ofTagged? : Tag → Json → Option Param
  | .string, v => (scalarText? v).map text
  | .integer, v => integerOfJson? v
  | .number, v => numberOfJson? v
  | .boolean, v => booleanOfJson? v
  | .date, v => timestampOfJson? v
  | .timestamp, v => timestampOfJson? v

/-- The parameter of a literal. Null is null under every tag. The field is only named in errors. -/
def ofLiteral (field : String) (l : Literal) : Except CompileError Param :=
  match l.value with
  | .null => .ok null
  | v =>
    match ofTagged? l.tag v with
    | some p => .ok p
    | none => .error (.invalidLiteral field l.tag v)

/-- The pattern that a literal's text makes between two pieces of pattern. -/
def pattern (field : String) (l : Literal) (before after : String) : Except CompileError Param :=
  match scalarText? l.value with
  | some s => .ok (text (before ++ s ++ after))
  | none => .error (.invalidLiteral field .string l.value)

end Param

end Rollup
