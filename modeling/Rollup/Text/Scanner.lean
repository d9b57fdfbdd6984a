import Rollup.Text.Blank
import Rollup.Double.Reading
/-!
Scanners read the beginning of a text and leave the characters behind it. A scanner that fails
leaves everything, so that another one can be tried.
-/
namespace Rollup.Text

/-- A reader of a text's beginning, with the characters behind it. -/
abbrev Scanner := StateT (List Char) Option

namespace Scanner

/-- The next character, if it satisfies a test. -/
def charWhere (test : Char → Bool) : Scanner Char := fun cs =>
  match cs with
  | c :: rest => if test c then some (c, rest) else none
  | [] => none

def char (c : Char) : Scanner Unit := do
  let _ ← charWhere (· == c)

/-- Exactly the given characters. -/
def word (w : String) : Scanner Unit := fun cs =>
  if w.toList.isPrefixOf cs then some ((), cs.drop w.toList.length) else none

/-- The longest run of characters that satisfy a test, perhaps an empty one. -/
def run (test : Char → Bool) : Scanner (List Char) := fun cs =>
  some (cs.takeWhile test, cs.dropWhile test)

/-- Skips blanks. -/
def blanks : Scanner Unit := fun cs => some ((), dropBlanks cs)

/-- A number of at least one digit and, where a width is given, of at most that many. -/
def digits (width : Option Nat) : Scanner Nat := fun cs =>
  let run := cs.takeWhile Char.isDigit
  let taken := match width with
    | some w => run.take w
    | none => run
  if taken.isEmpty then none else some (Double.ofDigits taken, cs.drop taken.length)

/-- A number of exactly so many digits. -/
def fixed (width : Nat) : Scanner Nat := fun cs =>
  let taken := cs.take width
  if taken.length = width ∧ taken.all Char.isDigit then
    some (Double.ofDigits taken, cs.drop width)
  else none

/-- A value that must satisfy a test. -/
def guarded {α : Type} (p : Scanner α) (test : α → Bool) : Scanner α := do
  let x ← p
  if test x then return x else failure

/-- Only the end of the text. -/
def ending : Scanner Unit := fun cs => if cs.isEmpty then some ((), []) else none

/-- The characters that a scanner reads. -/
def reading {α : Type} (p : Scanner α) : Scanner (List Char) := fun cs =>
  (p cs).map fun (_, rest) => (cs.take (cs.length - rest.length), rest)

/-- Runs a scanner over a whole text. -/
def whole? {α : Type} (p : Scanner α) (s : String) : Option α :=
  match p s.toList with
  | some (x, []) => some x
  | _ => none

end Scanner

end Rollup.Text
