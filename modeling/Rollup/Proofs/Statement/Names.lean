import Rollup.Proofs.Statement.Outline
/-!
Names: the texts of a request that go into its statement as they are. A property of all of them
is kept on the way, as a statement has no names of its own.
-/
namespace Rollup

/-- All names of a request have a property: the table, the fields, the labels that are not blank,
and the column that the window of time falls back to. -/
structure Request.NamesSatisfy (P : String → Prop) (r : Request) (timeColumn : String) : Prop where
  table : P r.table
  dimensions : ∀ d ∈ r.dimensions, P d.field ∧ ∀ label ∈ nonBlank d.label, P label
  measures : ∀ m ∈ r.measures, P m.field ∧ ∀ label ∈ nonBlank m.label, P label
  filters : ∀ f ∈ r.filters, P f.field
  orders : ∀ o ∈ r.orders, P o.field
  timeColumn : P timeColumn

def Projection.NamesSatisfy (P : String → Prop) (p : Projection) : Prop :=
  P p.field ∧ ∀ label ∈ p.label, P label

/-- All names of an outline have a property. -/
structure Outline.NamesSatisfy (P : String → Prop) (o : Outline) : Prop where
  table : P o.table
  projections : ∀ p ∈ o.projections, p.NamesSatisfy P
  conditions : ∀ c ∈ o.conditions, P c.field
  groupings : ∀ g ∈ o.groupings, P g.field
  sorting : ∀ k ∈ o.sorting, P k.target

variable {P : String → Prop}

/-- A sort target is the order's field or the label of a column. -/
theorem orderTarget_satisfies {columns : List Projection} {field : String} (hfield : P field)
    (hcolumns : ∀ p ∈ columns, ∀ label ∈ p.label, P label) : P (orderTarget columns field) := by
  unfold orderTarget
  split
  · exact hfield
  · cases hfind : columns.find? fun c => c.field == field with
    | none => exact hfield
    | some p =>
      cases hlabel : p.label with
      | none => simpa [hlabel] using hfield
      | some label =>
        simpa [hlabel] using hcolumns p (List.mem_of_find?_eq_some hfind) label hlabel

namespace Request.NamesSatisfy

variable {r : Request} {timeColumn : String} (h : r.NamesSatisfy P timeColumn)
include h

theorem column : ∀ p ∈ r.columns, p.NamesSatisfy P := by
  intro p hp
  rcases List.mem_append.mp hp with hp | hp
  · obtain ⟨d, hd, rfl⟩ := List.mem_map.mp hp
    exact h.dimensions d hd
  · obtain ⟨m, hm, rfl⟩ := List.mem_map.mp hp
    exact h.measures m hm

theorem rangeColumn : P (r.rangeColumn timeColumn) := by
  unfold Request.rangeColumn
  rcases Dimension.firstTimeField_cases timeColumn r.dimensions with
    ⟨front, d, back, hdimensions, _, _, hfield⟩ | ⟨_, hfield⟩
  · rw [hfield]
    exact (h.dimensions d (by simp [hdimensions])).1
  · rw [hfield]
    exact h.timeColumn

/-- Names go into the outline as they are, but for the blanks around the table's name. -/
theorem outline (htrim : ∀ s, P s → P (Text.trim s)) :
    (r.outline timeColumn).NamesSatisfy P where
  table := htrim _ h.table
  projections := h.column
  conditions := by
    intro c hc
    rcases List.mem_append.mp hc with hc | hc
    · cases hr : r.range with
      | none => simp [rangeCondition?, hr] at hc
      | some range =>
        simp only [rangeCondition?, hr, Option.map_some, Option.toList_some,
          List.mem_singleton] at hc
        subst hc
        exact h.rangeColumn
    · obtain ⟨f, hf, rfl⟩ := List.mem_map.mp hc
      exact h.filters f hf
  groupings := by
    intro g hg
    obtain ⟨d, hd, rfl⟩ := List.mem_map.mp hg
    exact (h.dimensions d hd).1
  sorting := by
    intro k hk
    obtain ⟨o, ho, rfl⟩ := List.mem_map.mp hk
    exact orderTarget_satisfies (h.orders o ho) fun p hp => (h.column p hp).2

end Request.NamesSatisfy

end Rollup
