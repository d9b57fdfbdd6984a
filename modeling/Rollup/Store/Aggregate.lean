import Rollup.Store.Affinity
import Rollup.Store.Error
/-!
Aggregates of cells. Nulls do not count. A sum is an integer as long as all its terms are; reals are
added with a running compensation for what rounding lost.
-/
namespace Rollup.Store

/-- A sum of reals and the compensation for its rounding errors. -/
structure CompensatedSum where
  sum : Float
  lost : Float
  deriving Repr

namespace CompensatedSum

/-- Adds a term; the part of the smaller operand that was rounded away is kept. -/
def add (s : CompensatedSum) (x : Float) : CompensatedSum :=
  let t := s.sum + x
  if x.abs < s.sum.abs then ⟨t, s.lost + ((s.sum - t) + x)⟩ else ⟨t, s.lost + ((x - t) + s.sum)⟩

/-- Integers from here on are not added in one step. -/
def splitBound : Nat := 4503599627370496

/-- A great integer as a sum of two terms that are reals exactly. -/
def split (i : Int) : Int × Int :=
  let small := i.tmod 16384
  (i - small, small)

/-- Adds an integer. -/
def addInt (s : CompensatedSum) (i : Int) : CompensatedSum :=
  if splitBound ≤ i.natAbs then
    let (big, small) := split i
    (s.add (Float.ofInt big)).add (Float.ofInt small)
  else s.add (Float.ofInt i)

/-- Starts from an integer. -/
def ofInt (i : Int) : CompensatedSum :=
  if splitBound ≤ i.natAbs then
    let (big, small) := split i
    ⟨Float.ofInt big, Float.ofInt small⟩
  else ⟨Float.ofInt i, 0.0⟩

def value (s : CompensatedSum) : Float :=
  if Double.isFinite s.lost then s.sum + s.lost else s.sum

end CompensatedSum

/-- The state of adding up cells. -/
inductive Total where
  /-- All terms so far were integers. -/
  | exact (sum : Int)
  /-- Some term was a real, or the integers overflowed. -/
  | inexact (sum : CompensatedSum) (overflowed : Bool)
  deriving Repr

namespace Total

def addInt : Total → Int → Total
  | exact n, i =>
    if Word.IsSigned (n + i) then exact (n + i)
    else inexact ((CompensatedSum.ofInt n).addInt i) true
  | inexact s o, i => inexact (s.addInt i) o

def addReal : Total → Float → Total
  | exact n, x => inexact ((CompensatedSum.ofInt n).add x) false
  | inexact s _, x => inexact (s.add x) false

/-- Adds a cell: texts that are no numbers count by the number they start with. -/
def add (t : Total) (c : Cell) : Total :=
  match c.toNumber with
  | .null => t
  | .integer i => t.addInt i
  | .real x => t.addReal x
  | .text s => t.addReal (leadingReal s)
  | .blob bytes => t.addReal (leadingReal (String.ofList (Text.decodeBytes bytes)))

def value : Total → Float
  | exact n => Float.ofInt n
  | inexact s _ => s.value

end Total

/-- The total of cells. -/
def total (cells : List Cell) : Total := cells.foldl Total.add (.exact 0)

/-- The first cell before or after all others in the order. -/
def extreme (better : Ordering) : List Cell → Cell
  | [] => .null
  | c :: cs => cs.foldl (fun best c => if c.order best = better then c else best) c

/-- An aggregate of the cells of a column. -/
def aggregate (a : Aggregate) (cells : List Cell) : Except DatabaseError Cell :=
  let given := cells.filter fun c => !c.isNull
  match a with
  | .count => .ok (.integer given.length)
  | .sum =>
    if given.isEmpty then .ok .null
    else
      match total given with
      | .exact n => .ok (.integer n)
      | .inexact _ true => .error .integerOverflow
      | .inexact s false => .ok (.ofFloat s.value)
  | .avg =>
    if given.isEmpty then .ok .null
    else .ok (.ofFloat ((total given).value / Float.ofNat given.length))
  | .min => .ok (extreme .lt given)
  | .max => .ok (extreme .gt given)

end Rollup.Store
