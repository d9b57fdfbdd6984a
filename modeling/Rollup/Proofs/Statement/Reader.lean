import Rollup.Proofs.Statement.Outline
import Rollup.Proofs.Text.Scanning
/-!
Reading the outline of a statement back from its text. Names are read by their characters alone,
so that a name may well be a word of the language; templates are read up to the quote behind them.
-/
namespace Rollup

open Calendar (Interval)
open Text (Scanner)
open Text.Scanner

/-- The first and the last characters of the ranges that names consist of. -/
def nameRanges : List (Char × Char) := [('a', 'z'), ('A', 'Z'), ('0', '9'), ('_', '_'), ('.', '.')]

def isNameChar (c : Char) : Bool :=
  nameRanges.any fun r => decide (r.1.toNat ≤ c.toNat) && decide (c.toNat ≤ r.2.toNat)

/-- A text that is read as a name. -/
def IsName (s : String) : Prop := s ≠ "" ∧ ∀ c ∈ s.toList, isNameChar c = true

instance (s : String) : Decidable (IsName s) :=
  @instDecidableAnd _ _ inferInstance (List.decidableBAll _ s.toList)

theorem isBlank_of_isNameChar {c : Char} (h : isNameChar c = true) : Text.isBlank c = false := by
  have hapart : ∀ r ∈ nameRanges, ∀ b ∈ Text.blankRanges,
      r.2.toNat < b.1 ∨ b.2 < r.1.toNat := by decide
  obtain ⟨r, hr, hc⟩ := List.any_eq_true.mp h
  rw [Bool.and_eq_true, decide_eq_true_eq, decide_eq_true_eq] at hc
  unfold Text.isBlank
  rw [List.any_eq_false]
  intro b hb
  rw [Bool.and_eq_true, decide_eq_true_eq, decide_eq_true_eq]
  rcases hapart r hr b hb with hbelow | habove
  · omega
  · omega

theorem IsName.trim {s : String} (hs : IsName s) : IsName (Text.trim s) := by
  rwa [Text.trim_of_not_blank fun c hc => isBlank_of_isNameChar (hs.2 c hc)]

namespace Operator

/-- The number of operands, where the operator fixes it. -/
def arity? : Operator → Option Nat
  | compare _ => some 1
  | like => some 1
  | between => some 2
  | inList _ => none
  | isNull => some 0

/-- The text behind the column, up to the operands of a list. -/
def text : Operator → String
  | compare op => " " ++ op.symbol ++ " ?"
  | like => " LIKE ?"
  | between => " BETWEEN ? AND ?"
  | inList negated => if negated then " NOT IN (" else " IN ("
  | isNull => " IS NULL"

def all : List Operator :=
  [compare .eq, compare .ne, compare .gt, compare .ge, compare .lt, compare .le, like, between,
   inList false, inList true, isNull]

end Operator

namespace Outline.Reader

def name : Scanner String := do
  let cs ← run isNameChar
  if cs.isEmpty then failure else return String.ofList cs

def unit : Scanner Interval := oneOf Interval.name Interval.all

def aggregate : Scanner Aggregate := oneOf (·.keyword ++ "(") Aggregate.all

def operator : Scanner Operator := oneOf Operator.text Operator.all

def direction : Scanner Direction := oneOf (" " ++ ·.keyword) [.asc, .desc]

def grouping : Scanner Grouping :=
  (do
    word "DATE_TRUNC('"
    let unit ← unit
    word "', "
    let field ← name
    word ")"
    return ⟨field, some unit⟩) <|>
  (do
    let field ← name
    return ⟨field, none⟩)

def label : Scanner (Option String) := behind? " AS " name

/-- A truncated column with its template, an aggregated column, or a grouping expression. -/
def column : Scanner Projection :=
  (do
    word "TO_CHAR("
    let expr ← grouping
    word ", '"
    let template ← run (· != '\'')
    word "')"
    let label ← label
    return .dimension expr (some (String.ofList template)) label) <|>
  (do
    let aggregate ← aggregate
    let field ← name
    word ")"
    let label ← label
    return .measure aggregate field label) <|>
  (do
    let expr ← grouping
    let label ← label
    return .dimension expr none label)

/-- The number of placeholders up to the end of a list. -/
def operands : Scanner Nat :=
  (do
    let marks ← parted ", " (word "?")
    word ")"
    return marks.length) <|>
  (do
    word ")"
    return 0)

def condition : Scanner Condition := do
  let field ← name
  let op ← operator
  match op.arity? with
  | some n => return ⟨field, op, n⟩
  | none =>
    let n ← operands
    return ⟨field, op, n⟩

def sortKey : Scanner SortKey := do
  let target ← name
  let direction ← direction
  return ⟨target, direction⟩

/-- The elements behind a heading; none if the heading is not there. -/
def clause {α : Type} (heading separator : String) (p : Scanner α) : Scanner (List α) := do
  let elements ← behind? heading (parted separator p)
  return elements.getD []

def statement : Scanner Outline := do
  word "SELECT "
  let projections ← parted ", " column
  word " FROM "
  let table ← name
  let conditions ← clause " WHERE " " AND " condition
  let groupings ← clause " GROUP BY " ", " grouping
  let sorting ← clause " ORDER BY " ", " sortKey
  let limit ← behind? " LIMIT " (digits none)
  let offset ← behind? " OFFSET " (digits none)
  return ⟨projections, table, conditions, groupings, sorting, limit, offset⟩

end Outline.Reader

/-- The outline of the statement with this text, if it is the text of one. -/
def Outline.read? (s : String) : Option Outline := whole? Outline.Reader.statement s

end Rollup
