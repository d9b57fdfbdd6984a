import Rollup.Store.Affinity
import Rollup.Store.Error
/-!
Tables and databases. Names of tables and columns are equal up to the case of ASCII letters; rows
stay in the order of their insertion.
-/
namespace Rollup.Store

structure Column where
  name : String
  affinity : Affinity
  deriving Repr, DecidableEq

structure Table where
  name : String
  columns : List Column
  rows : List (List Cell) := []
  deriving Repr, DecidableEq

/-- A database: its tables in the order of their creation. -/
structure Database where
  tables : List Table := []
  deriving Repr, DecidableEq, Inhabited

namespace Table

/-- The column of a name, which may be qualified by the table's name. -/
def column? (t : Table) (name : String) : Option (Nat × Column) :=
  let plain (name : String) : Option (Nat × Column) :=
    (t.columns.zipIdx.find? fun (c, _) => Text.sameAsciiFold c.name name).map fun (c, i) => (i, c)
  match plain name with
  | some found => some found
  | none =>
    let chars := name.toList
    let owner := String.ofList (chars.takeWhile (· != '.'))
    if Text.sameAsciiFold owner t.name then
      plain (String.ofList ((chars.dropWhile (· != '.')).drop 1))
    else none

/-- Adds rows, every value converted as its column prefers. -/
def insert (t : Table) (rows : List (List Cell)) : Table :=
  { t with rows := t.rows ++ rows.map fun row => List.zipWith (fun c v => c.affinity.store v) t.columns row }

end Table

namespace Database

def table? (db : Database) (name : String) : Option Table :=
  db.tables.find? fun t => Text.sameAsciiFold t.name name

/-- The first name that an earlier one equals. -/
def repeatedName? : List String → Option String
  | [] => none
  | n :: ns => (ns.find? fun m => Text.sameAsciiFold m n) <|> repeatedName? ns

/-- Creates a table of columns with declared types. -/
def create (db : Database) (name : String) (columns : List (String × String)) :
    Except DatabaseError Database :=
  if (db.table? name).isSome then .error (.tableExists name)
  else
    match repeatedName? (columns.map (·.1)) with
    | some c => .error (.duplicateColumn c)
    | none =>
      let columns := columns.map fun (n, declared) => ⟨n, Affinity.ofDeclaration declared⟩
      .ok ⟨db.tables ++ [⟨name, columns, []⟩]⟩

/-- Inserts rows into a table, all or none of them. -/
def insert (db : Database) (name : String) (rows : List (List Cell)) :
    Except DatabaseError Database :=
  let width := (rows.head?.map List.length).getD 0
  if rows.any fun r => r.length != width then .error .unevenRows
  else
    match db.table? name with
    | none => .error (.noSuchTable name)
    | some t =>
      if width != t.columns.length && !rows.isEmpty then
        .error (.wrongValueCount t.name t.columns.length width)
      else
        .ok ⟨db.tables.map fun u => if Text.sameAsciiFold u.name name then u.insert rows else u⟩

end Database

end Rollup.Store
