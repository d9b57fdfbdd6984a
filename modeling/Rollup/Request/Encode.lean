import Rollup.Request.Basic
import Rollup.Calendar.Printer
/-!
Requests as JSON values: every member is written, in declared order, absent ones as null.
-/
namespace Rollup

/-- Null for nothing. -/
def Json.ofOption {α : Type} (encode : α → Json) : Option α → Json
  | some x => encode x
  | none => .null

def Json.ofNat (n : Nat) : Json := .number (.int n)

def Calendar.Instant.encode (t : Calendar.Instant) : Json := .text (t.exactText "Z")

def Measure.encode (m : Measure) : Json :=
  .record [("field", .text m.field), ("agg", .text m.aggregate.name),
    ("alias", .ofOption .text m.label)]

def Dimension.encode (d : Dimension) : Json :=
  .record [("field", .text d.field), ("alias", .ofOption .text d.label),
    ("type", .text d.kind.name), ("interval", .ofOption (fun i => .text i.name) d.interval),
    ("format", .ofOption .text d.format)]

def Literal.encode : Literal → Json
  | typed v t => .record [("value", v), ("type", .ofOption (fun t => .text t.name) t)]
  | bare v => v

def Operand.encode : Operand → Json
  | single l => l.encode
  | list ls => .list (ls.map Literal.encode)

def Filter.encode (f : Filter) : Json :=
  .record [("filterType", .text f.kind.name), ("field", .text f.field),
    ("filterValue", .ofOption Operand.encode f.operand)]

def Order.encode (o : Order) : Json :=
  .record [("field", .text o.field), ("direction", .ofOption .text o.direction)]

def TimeRange.encode (r : TimeRange) : Json :=
  .record [("from", r.first.encode), ("to", r.last.encode)]

def Request.encode (r : Request) : Json :=
  .record [("tableName", .text r.table), ("measures", .list (r.measures.map Measure.encode)),
    ("dimensions", .list (r.dimensions.map Dimension.encode)),
    ("filters", .list (r.filters.map Filter.encode)),
    ("orders", .list (r.orders.map Order.encode)),
    ("timeRange", .ofOption TimeRange.encode r.range), ("limit", .ofOption .ofNat r.limit),
    ("offset", .ofOption .ofNat r.offset), ("format", .ofOption .text r.format)]

end Rollup
