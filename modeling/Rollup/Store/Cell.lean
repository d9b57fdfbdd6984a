import Rollup.Statement.Param
import Rollup.Text.Utf8
/-!
The values that a table holds, and their order: nothing before numbers, numbers before texts, texts
before bytes. Integers and reals are compared by their exact values.
-/
namespace Rollup.Store

inductive Cell where
  | null
  | integer (value : Int)
  | real (value : Float)
  | text (value : String)
  | blob (bytes : List UInt8)
  deriving Repr, DecidableEq, Inhabited

/-- The kinds of values. -/
inductive Kind where
  | null
  | integer
  | real
  | text
  | blob
  deriving Repr, DecidableEq

def Kind.name : Kind → String
  | null => "Null"
  | integer => "Integer"
  | real => "Real"
  | text => "Text"
  | blob => "Blob"

namespace Cell

def kind : Cell → Kind
  | null => .null
  | integer _ => .integer
  | real _ => .real
  | text _ => .text
  | blob _ => .blob

def isNull : Cell → Bool
  | null => true
  | _ => false

/-- A real cell; what is no number is nothing. -/
def ofFloat (x : Float) : Cell := if x.isNaN then null else real x

/-- The value that a placeholder is given for a parameter. -/
def ofParam : Param → Cell
  | .null => null
  | .bool b => integer (if b then 1 else 0)
  | .integer i => integer i
  | .real x => ofFloat x
  | .text s => text s
  | .timestamp t => text t.text

/-- A cell in an answer: bytes are shown as text, infinite reals as null. -/
def toJson : Cell → Json
  | null => .null
  | integer i => .number (.int i)
  | real x => if Double.isFinite x then .number (.float x) else .null
  | text s => .text s
  | blob bytes => .text (String.ofList (Text.decodeBytes bytes))

/-- The exact order of an integer and a real. -/
def compareIntReal (i : Int) (x : Float) : Ordering :=
  if Double.isFinite x then
    let m := Double.magnitude x
    let n : Int := if Double.isNegative x then -(m.numerator : Int) else m.numerator
    compare (i * m.denominator) n
  else if Double.isNegative x then .gt
  else .lt

def compareReal (x y : Float) : Ordering := if x < y then .lt else if x == y then .eq else .gt

def compareBytes : List UInt8 → List UInt8 → Ordering
  | [], [] => .eq
  | [], _ :: _ => .lt
  | _ :: _, [] => .gt
  | a :: as, b :: bs => (compare a.toNat b.toNat).then (compareBytes as bs)

/-- Place of a kind in the order. -/
def rank : Cell → Nat
  | null => 0
  | integer _ => 1
  | real _ => 1
  | text _ => 2
  | blob _ => 3

/-- The order of all cells, which sorting and grouping go by. -/
def order : Cell → Cell → Ordering
  | integer i, integer j => compare i j
  | integer i, real x => compareIntReal i x
  | real x, integer i => (compareIntReal i x).swap
  | real x, real y => compareReal x y
  | text s, text t => compareOfLessAndEq s t
  | blob a, blob b => compareBytes a b
  | a, b => compare a.rank b.rank

end Cell

/-- A row of an answer: values under the names of columns. -/
abbrev Row := List (String × Json)

end Rollup.Store
