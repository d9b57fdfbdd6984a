/-!
Values of a configuration file. A key path is a dotted key: the tables on its way, outermost first,
and the name in the last of them.
-/
namespace Rollup.Toml

inductive Value where
  | text (value : String)
  | integer (value : Int)
  | real (value : Float)
  | bool (value : Bool)
  /-- A date, a time of day, or both, as it is written. -/
  | time (written : String)
  | list (items : List Value)
  | table (entries : List (String × Value))
  deriving Repr, Inhabited

structure KeyPath where
  tables : List String
  name : String
  deriving Repr, DecidableEq

/-- What stands under a name. -/
def lookup {α : Type} (name : String) : List (String × α) → Option α
  | [] => none
  | (n, x) :: rest => if n = name then some x else lookup name rest

/-- Puts something under a name, in place of what stands there. -/
def put {α : Type} (name : String) (x : α) : List (String × α) → List (String × α)
  | [] => [(name, x)]
  | (n, y) :: rest => if n = name then (n, x) :: rest else (n, y) :: put name x rest

end Rollup.Toml
