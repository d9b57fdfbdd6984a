/-!
Reports of what went wrong: a first message and, below it, its causes, each deeper than the one
before.
-/
namespace Rollup.CommandLine

structure Report where
  message : String
  causes : List String := []
  deriving Repr, DecidableEq

/-- A text whose further lines are indented. -/
def hanging (indent : String) (s : String) : String :=
  String.join (s.toList.map fun c => if c = '\n' then "\n" ++ indent else c.toString)

/-- A place in the chain of causes, right-aligned to five columns. -/
def rank (n : Nat) : String :=
  let digits := toString n
  String.ofList (List.replicate (5 - digits.length) ' ') ++ digits ++ ": "

/-- Causes with numbers in front of them, from a first number on. -/
def numbered : Nat → List String → String
  | _, [] => ""
  | n, c :: cs => rank n ++ hanging "       " c ++ "\n" ++ numbered (n + 1) cs

/-- A single cause needs no number. -/
def causesText : List String → String
  | [] => ""
  | [c] => "\n\nCaused by:\n    " ++ hanging "    " c ++ "\n"
  | cs => "\n\nCaused by:\n" ++ numbered 0 cs

def Report.text (r : Report) : String :=
  "Error: " ++ r.message ++ if r.causes.isEmpty then "\n" else causesText r.causes

example : Report.text ⟨"a", ["b\nc", "d"]⟩ =
    "Error: a\n\nCaused by:\n    0: b\n       c\n    1: d\n" := by decide +kernel

end Rollup.CommandLine
