import Rollup.Request.Basic
import Rollup.Calendar.Reader
import Rollup.Json.Decode
/-!
Decoding requests. Unknown members are skipped, members with defaults may be absent, and a literal
is decoded without failing: what is not a record of a literal's members is a value by itself.
-/
namespace Rollup

open Json (Decoder Draft Source)
open Json.Decode

def Calendar.Instant.decode : Decoder Instant := fun _ d =>
  match d with
  | .text (.ok s) =>
    match Instant.ofLenientText? s with
    | some t => .ok t
    | none => .error (.ofMismatch .unreadableInstant)
  | d => .error (Json.wrongKind "an RFC 3339 formatted date and time string" d)

/-- A decoder followed by a total function. -/
def mapped {α β : Type} (f : α → β) (decode : Decoder α) : Decoder β := fun src d => f <$> decode src d

/-- A missing or null name means the default aggregate. -/
def Aggregate.decode : Decoder Aggregate :=
  mapped (fun name => (name.map ofName).getD count) (optional text)

def Measure.shape : Shape where
  name := "Measure"
  members := [required "field" text, defaulted "agg" Aggregate.decode,
    defaulted "alias" (optional text)]

def Measure.decode : Decoder Measure := fun src d => do
  let given ← parts shape src d
  return {
    field := ← get given "field" text src
    aggregate := ← getD given "agg" Aggregate.decode .count src
    label := ← getD given "alias" (optional text) none src }

def Dimension.shape : Shape where
  name := "Dimension"
  members := [required "field" text, defaulted "alias" (optional text),
    defaulted "type" (choice DimensionKind.ofName),
    defaulted "interval" (optional (mapped Calendar.Interval.ofName text)),
    defaulted "format" (optional text)]

def Dimension.decode : Decoder Dimension := fun src d => do
  let given ← parts shape src d
  return {
    field := ← get given "field" text src
    label := ← getD given "alias" (optional text) none src
    kind := ← getD given "type" (choice DimensionKind.ofName) .category src
    interval := ← getD given "interval" (optional (mapped Calendar.Interval.ofName text)) none src
    format := ← getD given "format" (optional text) none src }

/-- A tag given by a value: null for none, a name, or a record of a name and null. -/
def Tag.ofJson? : Json → Option (Option Tag)
  | .null => some none
  | .text s => some (some (ofName s))
  | .record [(name, .null)] => some (some (ofName name))
  | _ => none

/-- The values of all members of a name. -/
def Json.valuesOf (name : String) (members : List (String × Json)) : List Json :=
  (members.filter fun m => m.1 == name).map (·.2)

/-- The literal that a value means. It is typed if the value is a record that has the member value
once, and a readable tag at most once. -/
def Literal.ofJson : Json → Literal
  | .record members =>
    match Json.valuesOf "value" members, Json.valuesOf "type" members with
    | [v], [] => typed v.settle none
    | [v], [t] =>
      match Tag.ofJson? t with
      | some tag => typed v.settle tag
      | none => bare (Json.record members).settle
    | _, _ => bare (Json.record members).settle
  | v => bare v.settle

/-- A list means a list of literals, any other value one literal. -/
def Operand.ofJson : Json → Operand
  | .list items => list (items.map Literal.ofJson)
  | v => single (Literal.ofJson v)

/-- Decodes an operand that stands some levels deep in its text. -/
def Operand.decode (level : Nat) : Decoder Operand := fun src d => do
  let room := match src with
    | .text => some (Json.maximalDepth - level)
    | .value => none
  let v ← Json.orFault (d.strict room)
  return ofJson v

/-- Levels of brackets around the operand of a filter in a request. -/
def Filter.operandLevel : Nat := 3

def Filter.shape : Shape where
  name := "Filter"
  members := [required "filterType" (choice FilterKind.ofName), required "field" text,
    defaulted "filterValue" (optional (Operand.decode operandLevel))]

def Filter.decode : Decoder Filter := fun src d => do
  let given ← parts shape src d
  return {
    kind := ← get given "filterType" (choice FilterKind.ofName) src
    field := ← get given "field" text src
    operand := ← getD given "filterValue" (optional (Operand.decode operandLevel)) none src }

def Order.shape : Shape where
  name := "Order"
  members := [required "field" text, defaulted "direction" (optional text)]

def Order.decode : Decoder Order := fun src d => do
  let given ← parts shape src d
  return {
    field := ← get given "field" text src
    direction := ← getD given "direction" (optional text) none src }

def TimeRange.shape : Shape where
  name := "TimeRange"
  members := [required "from" Calendar.Instant.decode, required "to" Calendar.Instant.decode]

def TimeRange.decode : Decoder TimeRange := fun src d => do
  let given ← parts shape src d
  return {
    first := ← get given "from" Calendar.Instant.decode src
    last := ← get given "to" Calendar.Instant.decode src }

def Request.shape : Shape where
  name := "AnalyticsRequest"
  members := [defaulted "tableName" text, defaulted "measures" (list Measure.decode),
    defaulted "dimensions" (list Dimension.decode), defaulted "filters" (list Filter.decode),
    defaulted "orders" (list Order.decode), defaulted "timeRange" (optional TimeRange.decode),
    defaulted "limit" (optional natural), defaulted "offset" (optional natural),
    defaulted "format" (optional text)]

def Request.decode : Decoder Request := fun src d => do
  let given ← parts shape src d
  return {
    table := ← getD given "tableName" text "" src
    measures := ← getD given "measures" (list Measure.decode) [] src
    dimensions := ← getD given "dimensions" (list Dimension.decode) [] src
    filters := ← getD given "filters" (list Filter.decode) [] src
    orders := ← getD given "orders" (list Order.decode) [] src
    range := ← getD given "timeRange" (optional TimeRange.decode) none src
    limit := ← getD given "limit" (optional natural) none src
    offset := ← getD given "offset" (optional natural) none src
    format := ← getD given "format" (optional text) none src }

/-- The request that a text says. -/
def Request.ofText (s : String) : Except Json.Failure Request := Json.decodeText decode s

/-- The request that a value stands for. -/
def Request.ofJson (v : Json) : Except Json.Failure Request := Json.decodeValue decode v

end Rollup
