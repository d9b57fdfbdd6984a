import Rollup.Proofs.Statement.Compiled
/-!
Independence of values. Two requests that differ in the contents of literals and in instants only
have one outline, so that neither a literal nor an instant shows in the text of a statement.
-/
namespace Rollup

open Fallible

/-- Filters that differ in the contents of their literals only. -/
structure Filter.SameShape (f g : Filter) : Prop where
  kind : f.kind = g.kind
  field : f.field = g.field
  operand : f.operand.map (·.literals.length) = g.operand.map (·.literals.length)

/-- Requests that differ in the contents of literals and in the ends of the window of time only. -/
structure Request.SameShape (r q : Request) : Prop where
  table : r.table = q.table
  measures : r.measures = q.measures
  dimensions : r.dimensions = q.dimensions
  filters : List.Forall₂ Filter.SameShape r.filters q.filters
  orders : r.orders = q.orders
  range : r.range.isSome = q.range.isSome
  limit : r.limit = q.limit
  offset : r.offset = q.offset

theorem Filter.length_literals (f : Filter) : f.literals.length =
    if f.kind = .unrecognized then 0 else (f.operand.map (·.literals.length)).getD 0 := by
  unfold literals
  cases f.kind <;> cases f.operand <;> rfl

/-- The condition of a filter needs the number of its literals, but none of their values. -/
theorem Filter.SameShape.condition_eq {f g : Filter} (h : f.SameShape g) :
    f.condition = g.condition := by
  have hliterals : f.literals.length = g.literals.length := by
    rw [length_literals, length_literals, h.kind, h.operand]
  unfold condition
  rw [h.field, h.kind, hliterals]

namespace Request.SameShape

variable {r q : Request} {timeColumn : String} (h : r.SameShape q)
include h

theorem rangeCondition?_eq : r.rangeCondition? timeColumn = q.rangeCondition? timeColumn := by
  have hcolumn : r.rangeColumn timeColumn = q.rangeColumn timeColumn := by
    unfold rangeColumn
    rw [h.dimensions]
  have hrange := h.range
  unfold rangeCondition?
  rw [hcolumn]
  cases hr : r.range <;> cases hq : q.range <;> simp [hr, hq] at hrange ⊢

theorem outline_eq : r.outline timeColumn = q.outline timeColumn := by
  have hcolumns : r.columns = q.columns := by
    unfold columns
    rw [h.dimensions, h.measures]
  have hfilters : r.filters.map Filter.condition = q.filters.map Filter.condition :=
    (map_eq_map_of_forall₂ h.filters fun _ _ hf => hf.condition_eq.symm).symm
  unfold outline
  rw [hcolumns, h.table, h.rangeCondition?_eq, hfilters, h.dimensions, h.orders, h.limit, h.offset]

end Request.SameShape

/-- Statements of requests that differ in literals and instants only have the same texts, pages
and numbers of parameters. -/
theorem sql_eq_of_sameShape {r q : Request} {timeColumn : String} {s t : Statement}
    (same : r.SameShape q) (hs : r.compile timeColumn = .ok s)
    (ht : q.compile timeColumn = .ok t) :
    s.query.sql = t.query.sql ∧ s.query.base = t.query.base ∧ s.query.paged = t.query.paged ∧
      s.query.params.length = t.query.params.length ∧
      (Query.count s.query).sql = (Query.count t.query).sql := by
  have houtline : s.outline = t.outline := by
    rw [(Request.compiled_of_compile hs).outline_eq, (Request.compiled_of_compile ht).outline_eq,
      same.outline_eq]
  have hbase : s.baseText = t.baseText := by
    rw [s.baseText_eq_outline_baseText, t.baseText_eq_outline_baseText, houtline]
  refine ⟨?_, hbase, ?_, ?_, congrArg countText hbase⟩
  · change s.sql = t.sql
    rw [s.sql_eq_outline_sql, t.sql_eq_outline_sql, houtline]
  · exact congrArg (fun o : Outline => o.limit.isSome) houtline
  · change s.params.length = t.params.length
    rw [s.length_params, t.length_params, houtline]

/-- A null, a number and a date in the places of texts, and another window of time. -/
def Request.probes (first second third : Json) (window : TimeRange) : Request where
  table := "orders"
  measures := [⟨"id", .count, none⟩]
  filters := [⟨.equals, "status", some (.single (.bare first))⟩,
    ⟨.notIn, "region", some (.list [.bare second, .typed third none])⟩]
  range := some window

theorem sql_eq_of_sameShape_probes :
    ∃ s t,
      (Request.probes .null (.number (.int 5)) (.text "") ⟨⟨0, 0, 0⟩, ⟨1, 0, 0⟩⟩).compile "day" =
        .ok s ∧
      (Request.probes (.text "' OR 1=1") .null (.bool true) ⟨⟨9, 0, 0⟩, ⟨8, 0, 0⟩⟩).compile "day" =
        .ok t ∧
      s ≠ t ∧ s.query.sql = t.query.sql := by
  have same : (Request.probes .null (.number (.int 5)) (.text "") ⟨⟨0, 0, 0⟩, ⟨1, 0, 0⟩⟩).SameShape
      (Request.probes (.text "' OR 1=1") .null (.bool true) ⟨⟨9, 0, 0⟩, ⟨8, 0, 0⟩⟩) := {
    table := rfl
    measures := rfl
    dimensions := rfl
    filters := .cons ⟨rfl, rfl, rfl⟩ (.cons ⟨rfl, rfl, rfl⟩ .nil)
    orders := rfl
    range := rfl
    limit := rfl
    offset := rfl }
  refine ⟨_, _, rfl, rfl, by decide +kernel, ?_⟩
  exact (sql_eq_of_sameShape same rfl rfl).1

end Rollup
