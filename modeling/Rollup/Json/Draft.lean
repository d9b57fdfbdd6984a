import Rollup.Json.Value
/-!
Drafts: what a text said before it stopped being JSON. A draft has the shape of a value, and keeps
at the place where reading stopped what was wrong there. So whoever walks a draft in reading order
meets the first problem of the text first, be it a fault of the text or a value of the wrong kind.

Two readings differ in what they tolerate. A strict reading wants values; a lax one only skips over
them and accepts numbers out of range, escapes that name no character and any depth.
-/
namespace Rollup.Json

/-- What is wrong with a text: it is not JSON, or it ended too early. -/
inductive Fault where
  | malformed
  | ended
  deriving Repr, DecidableEq

/-- The characters between quotes, or the fault that only a strict reading sees. -/
abbrev Spelling := Except Fault String

/-- How a list or a record ends. -/
inductive Ending where
  | closed
  /-- Neither an element nor the closing bracket follows. -/
  | broken (afterComma : Bool) (strict lax : Fault)
  deriving Repr, DecidableEq

inductive Draft where
  | null
  | bool (value : Bool)
  | number (value : Number)
  /-- A numeral above the range of doubles. -/
  | oversized
  | text (value : Spelling)
  | list (items : List Draft) (ending : Ending)
  | record (members : List (Spelling × Draft)) (ending : Ending)
  /-- A record whose first member starts with something other than a name. -/
  | misnamed (found : Draft)
  /-- No value starts here. -/
  | absent (fault : Fault)
  /-- A text that does not end as one. -/
  | brokenText (strict lax : Fault)
  /-- A numeral or a name of a constant that does not end as one. -/
  | brokenWord (strict lax : Fault)
  deriving Inhabited

namespace Draft

mutual

/-- The draft of a text that says exactly the value. -/
def ofJson : Json → Draft
  | .null => .null
  | .bool b => .bool b
  | .number n => .number n
  | .text s => .text (.ok s)
  | .list items => .list (ofItems items) .closed
  | .record members => .record (ofMembers members) .closed

def ofItems : List Json → List Draft
  | [] => []
  | v :: vs => ofJson v :: ofItems vs

def ofMembers : List (String × Json) → List (Spelling × Draft)
  | [] => []
  | (n, v) :: ms => (.ok n, ofJson v) :: ofMembers ms

end

/-- The fault of an ending, as a strict reading sees it. -/
def closing : Ending → Except Fault Unit
  | .closed => .ok ()
  | .broken _ strict _ => .error strict

mutual

/-- The strict reading: the value, in which records may name a member more than once, or the first
fault. Only as many levels of brackets are entered as there is room for. -/
def strict : Option Nat → Draft → Except Fault Json
  | _, .null => .ok .null
  | _, .bool b => .ok (.bool b)
  | _, .number n => .ok (.number n)
  | _, .oversized => .error .malformed
  | _, .text s => s.map .text
  | some 0, .list _ _ => .error .malformed
  | none, .list items ending => do
    let vs ← strictItems none items
    closing ending
    return .list vs
  | some (n + 1), .list items ending => do
    let vs ← strictItems (some n) items
    closing ending
    return .list vs
  | some 0, .record _ _ => .error .malformed
  | none, .record members ending => do
    let ms ← strictMembers none members
    closing ending
    return .record ms
  | some (n + 1), .record members ending => do
    let ms ← strictMembers (some n) members
    closing ending
    return .record ms
  | _, .misnamed _ => .error .malformed
  | _, .absent f => .error f
  | _, .brokenText f _ => .error f
  | _, .brokenWord f _ => .error f

def strictItems : Option Nat → List Draft → Except Fault (List Json)
  | _, [] => .ok []
  | room, d :: ds => do
    let v ← strict room d
    let vs ← strictItems room ds
    return v :: vs

def strictMembers : Option Nat → List (Spelling × Draft) → Except Fault (List (String × Json))
  | _, [] => .ok []
  | room, (name, d) :: ds => do
    let n ← name
    let v ← strict room d
    let ms ← strictMembers room ds
    return (n, v) :: ms

end

mutual

/-- The lax reading, which only finds the end of a value. -/
def skip : Draft → Except Fault Unit
  | .list items ending => do
    skipItems items
    match ending with
    | .closed => .ok ()
    | .broken _ _ lax => .error lax
  | .record members ending => do
    skipMembers members
    match ending with
    | .closed => .ok ()
    | .broken _ _ lax => .error lax
  | .misnamed _ => .error .malformed
  | .absent f => .error f
  | .brokenText _ f => .error f
  | .brokenWord _ f => .error f
  | .null => .ok ()
  | .bool _ => .ok ()
  | .number _ => .ok ()
  | .oversized => .ok ()
  | .text _ => .ok ()

def skipItems : List Draft → Except Fault Unit
  | [] => .ok ()
  | d :: ds => do
    skip d
    skipItems ds

def skipMembers : List (Spelling × Draft) → Except Fault Unit
  | [] => .ok ()
  | (_, d) :: ds => do
    skip d
    skipMembers ds

end

end Draft

mutual

/-- A value in which every record names each member once. -/
def settle : Json → Json
  | .list items => .list (settleItems items)
  | .record members => .record (merge (settleMembers members))
  | .null => .null
  | .bool b => .bool b
  | .number n => .number n
  | .text s => .text s

def settleItems : List Json → List Json
  | [] => []
  | v :: vs => settle v :: settleItems vs

def settleMembers : List (String × Json) → List (String × Json)
  | [] => []
  | (n, v) :: ms => (n, settle v) :: settleMembers ms

end

end Rollup.Json
