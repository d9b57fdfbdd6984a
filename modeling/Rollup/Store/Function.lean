import Rollup.Store.Error
import Rollup.Calendar.Template
/-!
Functions of dates in a database. A timestamp is a text in any readable layout or an integer of
seconds; no timestamp gives no result.
-/
namespace Rollup.Store

open Calendar (Instant Interval)

/-- The instant that a cell means. -/
def instantOf : Cell → Except DatabaseError (Option Instant)
  | .null => .ok none
  | .integer n =>
    match Instant.ofUnixSeconds? n with
    | some t => .ok (some t)
    | none => .error (.timestampOutOfRange n)
  | .text s =>
    match Instant.ofText? s with
    | some t => .ok (some t)
    | none => .error (.unreadableTimestamp s)
  | c => .error (.unsupportedTimestamp c.kind)

/-- A parameter that must be a text. -/
def textParameter (index : Nat) : Cell → Except DatabaseError String
  | .text s => .ok s
  | c => .error (.wrongParameterKind c.kind index)

/-- The start of the unit that a timestamp lies in. The unit is looked at first. -/
def truncateCell (unit timestamp : Cell) : Except DatabaseError Cell := do
  let name ← textParameter 0 unit
  match (← instantOf timestamp) with
  | none => return .null
  | some t =>
    match (Interval.ofName name).truncate? t with
    | some start => return .text start.text
    | none => .error .aborted

/-- A timestamp written by a template. The timestamp is looked at first. -/
def formatCell (timestamp template : Cell) : Except DatabaseError Cell := do
  match (← instantOf timestamp) with
  | none => return .null
  | some t => return .text (t.format (← textParameter 1 template))

/-- A function applied to arguments. -/
def ScalarFunction.apply (f : ScalarFunction) (args : List Cell) : Except DatabaseError Cell :=
  match f, args with
  | .dateTrunc, [unit, timestamp] => truncateCell unit timestamp
  | .toChar, [timestamp, template] => formatCell timestamp template
  | f, _ => .error (.wrongArgumentCount f)

end Rollup.Store
