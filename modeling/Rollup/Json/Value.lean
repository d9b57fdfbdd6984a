/-!
JSON values. A record keeps its members in the order in which their names were first given, and a
number is either an integer of at most sixty-four bits or a finite double.
-/
namespace Rollup

/-- A number, exact when it is an integer of at most sixty-four bits. -/
inductive Json.Number where
  | int (value : Int)
  | float (value : Float)
  deriving Repr, DecidableEq

inductive Json where
  | null
  | bool (value : Bool)
  | number (value : Json.Number)
  | text (value : String)
  | list (items : List Json)
  | record (members : List (String × Json))
  deriving Repr, Inhabited

namespace Json

mutual

/-- Equality of values is decided member by member. -/
def decEq : (a b : Json) → Decidable (a = b)
  | .null, .null => isTrue rfl
  | .bool a, .bool b => decidable_of_iff (a = b) (by simp)
  | .number a, .number b => decidable_of_iff (a = b) (by simp)
  | .text a, .text b => decidable_of_iff (a = b) (by simp)
  | .list a, .list b =>
    match decEqItems a b with
    | isTrue h => isTrue (by rw [h])
    | isFalse h => isFalse (by simpa using h)
  | .record a, .record b =>
    match decEqMembers a b with
    | isTrue h => isTrue (by rw [h])
    | isFalse h => isFalse (by simpa using h)
  | .null, .bool _ | .null, .number _ | .null, .text _ | .null, .list _ | .null, .record _
  | .bool _, .null | .bool _, .number _ | .bool _, .text _ | .bool _, .list _
  | .bool _, .record _ | .number _, .null | .number _, .bool _ | .number _, .text _
  | .number _, .list _ | .number _, .record _ | .text _, .null | .text _, .bool _
  | .text _, .number _ | .text _, .list _ | .text _, .record _ | .list _, .null
  | .list _, .bool _ | .list _, .number _ | .list _, .text _ | .list _, .record _
  | .record _, .null | .record _, .bool _ | .record _, .number _ | .record _, .text _
  | .record _, .list _ => isFalse (by simp)

def decEqItems : (a b : List Json) → Decidable (a = b)
  | [], [] => isTrue rfl
  | [], _ :: _ => isFalse (by simp)
  | _ :: _, [] => isFalse (by simp)
  | a :: as, b :: bs =>
    match decEq a b, decEqItems as bs with
    | isTrue h, isTrue hs => isTrue (by rw [h, hs])
    | isFalse h, _ => isFalse (by simp [h])
    | _, isFalse hs => isFalse (by simp [hs])

def decEqMembers : (a b : List (String × Json)) → Decidable (a = b)
  | [], [] => isTrue rfl
  | [], _ :: _ => isFalse (by simp)
  | _ :: _, [] => isFalse (by simp)
  | (m, a) :: as, (n, b) :: bs =>
    if hn : m = n then
      match decEq a b, decEqMembers as bs with
      | isTrue h, isTrue hs => isTrue (by rw [hn, h, hs])
      | isFalse h, _ => isFalse (by simp [h])
      | _, isFalse hs => isFalse (by simp [hs])
    else isFalse (by simp [hn])

end

instance : DecidableEq Json := decEq

/-- The value of the first member of a name. -/
def lookup (name : String) : List (String × Json) → Option Json
  | [] => none
  | (n, v) :: rest => if n = name then some v else lookup name rest

/-- Sets a member: in its old place if the name is known, at the end otherwise. -/
def put (name : String) (value : Json) : List (String × Json) → List (String × Json)
  | [] => [(name, value)]
  | (n, v) :: rest => if n = name then (n, value) :: rest else (n, v) :: put name value rest

@[simp] theorem lookup_put (name other : String) (value : Json) (ms : List (String × Json)) :
    lookup other (put name value ms) = if other = name then some value else lookup other ms := by
  induction ms with
  | nil => simp [put, lookup, eq_comm]
  | cons m ms ih =>
    obtain ⟨n, v⟩ := m
    by_cases h : n = name
    · subst h
      by_cases h' : n = other <;> simp [put, lookup, h', eq_comm]
      intro hh; exact absurd hh.symm h'
    · by_cases h' : n = other
      · subst h'; simp [put, lookup, h]
      · simp [put, lookup, h, h', ih]

/-- Members with every name once: the first place and the last value of each. -/
def merge (members : List (String × Json)) : List (String × Json) :=
  members.foldl (fun ms m => put m.1 m.2 ms) []

/-- A member of a record; null for an absent member and for other values. -/
def member (name : String) : Json → Json
  | .record ms => (lookup name ms).getD .null
  | _ => .null

end Json

end Rollup
