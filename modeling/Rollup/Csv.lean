import Rollup.Store.Cell
/-!
Rows as comma-separated values: a header of the first row's names, then one record a row. All
records have as many fields as the header.
-/
namespace Rollup.Csv

open Store (Row)

/-- The characters that a field shows in quotes only. -/
def needsQuotes (c : Char) : Bool := c == ',' || c == '"' || c == '\r' || c == '\n'

/-- Inside quotes, a quote is written twice. -/
def escapeChar (c : Char) : List Char := if c = '"' then ['"', '"'] else [c]

/-- A field, in quotes where one of its characters needs them. -/
def field (s : String) : String :=
  if s.toList.any needsQuotes then String.ofList ('"' :: s.toList.flatMap escapeChar ++ ['"'])
  else s

/-- Fields between commas and the end of the line. An empty line would be no record, so quotes
stand on it. -/
def record (fields : List String) : String :=
  let line := ",".intercalate (fields.map field)
  (if line.isEmpty then "\"\"" else line) ++ "\n"

/-- A value as a field: nothing for null, texts as they are, other values as JSON. -/
def fieldText : Json → String
  | .null => ""
  | .text s => s
  | v => v.compact

/-- A record with another number of fields than the header. -/
structure UnevenRecord where
  found : Nat
  expected : Nat
  deriving Repr, DecidableEq

def UnevenRecord.message (e : UnevenRecord) : String :=
  "CSV error: found record with " ++ toString e.found ++ " fields, but the previous record has " ++
    toString e.expected ++ " fields"

/-- The text of rows, empty if there are none. -/
def ofRows (rows : List Row) : Except UnevenRecord String :=
  match rows with
  | [] => .ok ""
  | first :: _ =>
    match rows.find? fun row => row.length != first.length with
    | some row => .error ⟨row.length, first.length⟩
    | none =>
      .ok (record (first.map Prod.fst) ++
        String.join (rows.map fun row => record (row.map fun cell => fieldText cell.2)))

example : (ofRows [[("a,b", .text "q\"r"), ("c", .null)]]).toOption =
    some "\"a,b\",c\n\"q\"\"r\",\n" := by decide +kernel
example : (ofRows [[("", .null)]]).toOption = some "\"\"\n\"\"\n" := by decide +kernel

end Rollup.Csv
