/-!
Patterns of LIKE: a percent sign stands for any run of characters, an underscore for any one
character, and every other character for itself in either case of ASCII letters.
-/
namespace Rollup.Store

/-- Whether a pattern fits a whole text. -/
def like : List Char → List Char → Bool
  | [], [] => true
  | [], _ :: _ => false
  | '%' :: ps, [] => like ps []
  | '%' :: ps, c :: cs => like ps (c :: cs) || like ('%' :: ps) cs
  | '_' :: ps, _ :: cs => like ps cs
  | _ :: _, [] => false
  | p :: ps, c :: cs => p.toLower == c.toLower && like ps cs
  termination_by ps cs => (ps.length, cs.length)

example : like "%b_D%".toList "abcd".toList = true := by cbv

end Rollup.Store
