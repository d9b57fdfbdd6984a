import Rollup.Json.Printer
import Rollup.CommandLine.Help
/-!
Answers as tables for people to read. The first row names the columns.
-/
namespace Rollup.CommandLine

/-- The least width of a column. -/
def columnWidth : Nat := 16

/-- The text of a cell: doubles have two places, and a dash stands for null. -/
def cellText : Json → String
  | .null => "-"
  | .text s => s
  | .number (.float x) => Double.twoPlaces x
  | v => v.compact

/-- A line of cells. -/
def tableLine (cells : List String) : String :=
  " | ".intercalate (cells.map (padTo columnWidth)) ++ "\n"

/-- The last line, which counts the rows shown and those there are. -/
def tableFooter (rows : List Json) (answer : Json) : String :=
  let metadata := answer.member "metadata"
  let identifier := match metadata.member "queryId" with
    | .text s => s
    | _ => "-"
  toString rows.length ++ " row(s), " ++ (metadata.member "totalRecords").compact ++
    " total, query " ++ identifier ++ "\n"

/-- An answer as a table. Rows that are no records make no table. -/
def tableText (answer : Json) : String :=
  match answer.member "data" with
  | .list (.record first :: rest) =>
    let rows := .record first :: rest
    let columns := first.map Prod.fst
    tableLine columns ++ String.ofList (List.replicate (columns.length * 19) '-') ++ "\n" ++
      String.join (rows.map fun row => tableLine (columns.map fun c => cellText (row.member c))) ++
      "\n" ++ tableFooter rows answer
  | .list (_ :: _) => ""
  | _ => "No data\n"

end Rollup.CommandLine
