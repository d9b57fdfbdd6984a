import Rollup.Toml.Value
/-!
Tables as they grow line by line. A table is opened by its header at most once, keys may add to the
tables that keys made, and nothing is ever given twice.
-/
namespace Rollup.Toml

/-- How a table came to be. -/
inductive Origin where
  /-- By a header of its own. -/
  | header
  /-- On the way of another table's header, which leaves room for a header of its own. -/
  | way
  /-- On the way of a dotted key. -/
  | key
  deriving Repr, DecidableEq

inductive Node where
  | value (value : Value)
  | table (origin : Origin) (entries : List (String × Node))
  /-- The tables of a list, one header each; only the last one still grows. -/
  | tables (earlier : List (List (String × Node))) (last : List (String × Node))
  deriving Repr, Inhabited

abbrev Entries := List (String × Node)

namespace Entries

/-- Adds a value under a dotted key. The tables on the way must be open to keys: made by keys, or,
all but the last one, met on the way of a header or last in a list. -/
def insert (name : String) (v : Value) : List String → Entries → Option Entries
  | [], es => if (lookup name es).isNone then some (put name (.value v) es) else none
  | k :: path, es =>
    match lookup k es with
    | none => do return put k (.table .key (← insert name v path [])) es
    | some (.table .key inner) => do return put k (.table .key (← insert name v path inner)) es
    | some (.table .way inner) =>
      if path.isEmpty then none
      else do return put k (.table .way (← insert name v path inner)) es
    | some (.tables earlier last) =>
      if path.isEmpty then none
      else do return put k (.tables earlier (← insert name v path last)) es
    | some (.table .header _) => none
    | some (.value _) => none

/-- Changes the table at the end of a way of headers, making the tables on it that are missing. -/
def within (change : Entries → Option Entries) : List String → Entries → Option Entries
  | [], es => change es
  | k :: way, es =>
    match lookup k es with
    | none => do return put k (.table .way (← within change way [])) es
    | some (.table origin inner) => do
      return put k (.table origin (← within change way inner)) es
    | some (.tables earlier last) => do
      return put k (.tables earlier (← within change way last)) es
    | some (.value _) => none

/-- Opens a table by its header. -/
def openTable (name : String) (es : Entries) : Option Entries :=
  match lookup name es with
  | none => some (put name (.table .header []) es)
  | some (.table .way inner) => some (put name (.table .header inner) es)
  | _ => none

/-- Opens the next table of a list by its header. -/
def openItem (name : String) (es : Entries) : Option Entries :=
  match lookup name es with
  | none => some (put name (.tables [] []) es)
  | some (.tables earlier last) => some (put name (.tables (earlier ++ [last]) []) es)
  | _ => none

/-- The entries of a table written on one line. -/
def ofPairs : List (KeyPath × Value) → Option Entries :=
  List.foldlM (fun es p => insert p.1.name p.2 p.1.tables es) []

end Entries

mutual

/-- A grown table as a value. -/
def Node.settle : Node → Value
  | .value v => v
  | .table _ es => .table (settleEntries es)
  | .tables earlier last => .list (settleTables earlier ++ [.table (settleEntries last)])

def settleEntries : List (String × Node) → List (String × Value)
  | [] => []
  | (n, x) :: es => (n, x.settle) :: settleEntries es

def settleTables : List (List (String × Node)) → List Value
  | [] => []
  | es :: rest => .table (settleEntries es) :: settleTables rest

end

/-- The lines of a file that say something. -/
inductive Line where
  | entry (key : KeyPath) (value : Value)
  | table (key : KeyPath)
  | item (key : KeyPath)
  deriving Repr

/-- The tables after some lines; entries go to the table opened last. -/
def grow : List Line → List String → Entries → Option Entries
  | [], _, es => some es
  | .entry key v :: rest, current, es => do
    let es ← es.within (Entries.insert key.name v key.tables) current
    grow rest current es
  | .table key :: rest, _, es => do
    let es ← es.within (Entries.openTable key.name) key.tables
    grow rest (key.tables ++ [key.name]) es
  | .item key :: rest, _, es => do
    let es ← es.within (Entries.openItem key.name) key.tables
    grow rest (key.tables ++ [key.name]) es

/-- The table that some lines make, if they agree with each other. -/
def tableOf? (lines : List Line) : Option (List (String × Value)) :=
  (grow lines [] []).map settleEntries

example : (grow [.table ⟨["a"], "b"⟩, .table ⟨[], "a"⟩] [] []).isSome = true := by decide +kernel
example : (grow [.entry ⟨["a"], "b"⟩ (.integer 1), .table ⟨[], "a"⟩] [] []).isSome = false := by
  decide +kernel

end Rollup.Toml
