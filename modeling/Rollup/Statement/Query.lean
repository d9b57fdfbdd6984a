import Rollup.Statement.Text
/-!
Queries: a statement, or the count of another query's rows. Their texts, parameters and paging are
functions of this shape.
-/
namespace Rollup

/-- The text that counts the rows of another text. -/
def countText (base : String) : String := "SELECT COUNT(*) FROM (" ++ base ++ ") AS total"

/-- The number of question marks outside of single quotes; the flag says whether the text starts
inside of them. -/
def placeholdersFrom : Bool → List Char → Nat
  | _, [] => 0
  | quoted, c :: cs =>
    if c = '\'' then placeholdersFrom (!quoted) cs
    else if c = '?' ∧ quoted = false then placeholdersFrom quoted cs + 1
    else placeholdersFrom quoted cs

inductive Query where
  | rows (statement : Statement)
  /-- The number of another query's rows without limit and offset. -/
  | count (inner : Query)
  deriving Repr, DecidableEq

namespace Query

/-- The text without limit and offset. -/
def base : Query → String
  | rows s => s.baseText
  | count q => countText q.base

def sql : Query → String
  | rows s => s.sql
  | count q => countText q.base

/-- Counting needs the same parameters, as limit and offset bind none. -/
def params : Query → List Param
  | rows s => s.params
  | count q => q.params

/-- Whether a limit was asked for. -/
def paged : Query → Bool
  | rows s => s.limit.isSome
  | count _ => false

@[simp] theorem params_count (q : Query) : (count q).params = q.params := rfl
@[simp] theorem sql_count (q : Query) : (count q).sql = (count q).base := rfl
@[simp] theorem paged_count (q : Query) : (count q).paged = false := rfl

def placeholders (q : Query) : Nat := placeholdersFrom false q.sql.toList

def paramsText (q : Query) : String := Param.displayAll q.params

end Query

def Statement.query (s : Statement) : Query := .rows s

end Rollup
