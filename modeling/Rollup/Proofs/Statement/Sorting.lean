import Rollup.Statement.Compile
import Rollup.Statement.Text
/-!
Sort targets. An order sorts by a label that equals its field, else by the label of a column made
from the field, else by the field. The rule takes the first column with a label; what is sorted by
comes from the first column alone, and differs from the rule where that column has no label.
-/
namespace Rollup

/-- The rule for sort targets. Blank labels do not count as labels of the columns made from a
field. -/
inductive SortTarget (columns : List Projection) (field : String) : String → Prop
  | label {c : Projection} (mem : c ∈ columns) (like : c.label = some field) :
    SortTarget columns field field
  | source {before after : List Projection} {c : Projection} {target : String}
    (unlike : ∀ p ∈ columns, p.label ≠ some field) (split : columns = before ++ c :: after)
    (made : c.field = field) (labelled : nonBlank c.label = some target)
    (first : ∀ p ∈ before, p.field = field → nonBlank p.label = none) :
    SortTarget columns field target
  | field (unlike : ∀ p ∈ columns, p.label ≠ some field)
    (unlabelled : ∀ p ∈ columns, p.field = field → nonBlank p.label = none) :
    SortTarget columns field field

/-- No label equals the field, and the first column made from it has a blank label, or none although
another column made from it has one. -/
def HidesLabel (columns : List Projection) (field : String) : Prop :=
  (∀ p ∈ columns, p.label ≠ some field) ∧
    ∃ c, columns.find? (fun p => p.field == field) = some c ∧ nonBlank c.label = none ∧
      (c.label ≠ none ∨ ∃ p ∈ columns, p.field = field ∧ nonBlank p.label ≠ none)

section
variable {columns : List Projection} {field : String}

theorem eq_some_of_nonBlank {s : Option String} {t : String} (h : nonBlank s = some t) :
    s = some t :=
  (Option.filter_eq_some_iff.mp h).1

theorem orderTarget_of_label {c : Projection} (hc : c ∈ columns) (hlabel : c.label = some field) :
    orderTarget columns field = field := by
  unfold orderTarget
  rw [if_pos (List.any_eq_true.mpr ⟨c, hc, by rw [hlabel, beq_self_eq_true]⟩)]

theorem orderTarget_of_unlike (h : ∀ p ∈ columns, p.label ≠ some field) :
    orderTarget columns field =
      ((columns.find? fun c => c.field == field).bind Projection.label).getD field := by
  unfold orderTarget
  rw [if_neg]
  intro hany
  obtain ⟨c, hc, hlabel⟩ := List.any_eq_true.mp hany
  exact h c hc (beq_iff_eq.mp hlabel)

/-- Without a label that equals the field, the rule gives a label of a column made from the field,
which is not the field, or there is no such label. -/
theorem SortTarget.of_unlike {target : String} (h : SortTarget columns field target)
    (unlike : ∀ p ∈ columns, p.label ≠ some field) :
    (target ≠ field ∧ ∃ p ∈ columns, nonBlank p.label = some target) ∨
      (target = field ∧ ∀ p ∈ columns, p.field = field → nonBlank p.label = none) := by
  cases h with
  | label mem like => exact absurd like (unlike _ mem)
  | @source before after c _ _ split _ labelled _ =>
    have hc : c ∈ columns := by simp [split]
    refine .inl ⟨fun heq => ?_, c, hc, labelled⟩
    exact unlike c hc (by rw [eq_some_of_nonBlank labelled, heq])
  | field _ unlabelled => exact .inr ⟨rfl, unlabelled⟩

theorem not_sortTarget_of_hidesLabel (h : HidesLabel columns field) :
    ¬SortTarget columns field (orderTarget columns field) := by
  obtain ⟨unlike, c, hfind, hblank, hhidden⟩ := h
  have hc := List.mem_of_find?_eq_some hfind
  rw [orderTarget_of_unlike unlike, hfind, Option.bind_some]
  intro htarget
  cases hlabel : c.label with
  | none =>
    rw [hlabel] at htarget
    rcases htarget.of_unlike unlike with ⟨hne, _⟩ | ⟨_, hnone⟩
    · exact hne rfl
    · rcases hhidden with hsome | ⟨p, hp, hfield, hp'⟩
      · exact hsome hlabel
      · exact hp' (hnone p hp hfield)
  | some a =>
    rw [hlabel] at htarget hblank
    rcases htarget.of_unlike unlike with ⟨_, p, _, hp⟩ | ⟨heq, _⟩
    · rw [eq_some_of_nonBlank hp, Option.getD_some, hblank] at hp
      cases hp
    · exact unlike c hc (by rw [hlabel]; exact congrArg some heq)

/-- What is sorted by is what the rule says, unless the first column made from the field hides a
label. -/
theorem sortTarget_orderTarget_iff (columns : List Projection) (field : String) :
    SortTarget columns field (orderTarget columns field) ↔ ¬HidesLabel columns field := by
  constructor
  · intro htarget hhides
    exact not_sortTarget_of_hidesLabel hhides htarget
  intro hhides
  by_cases hlike : ∃ c ∈ columns, c.label = some field
  · obtain ⟨c, hc, hlabel⟩ := hlike
    rw [orderTarget_of_label hc hlabel]
    exact .label hc hlabel
  · have unlike : ∀ p ∈ columns, p.label ≠ some field := fun p hp h => hlike ⟨p, hp, h⟩
    rw [orderTarget_of_unlike unlike]
    cases hfind : columns.find? fun p => p.field == field with
    | none =>
      refine .field unlike fun p hp hfield => ?_
      exact absurd (beq_iff_eq.mpr hfield) (List.find?_eq_none.mp hfind p hp)
    | some c =>
      cases hblank : nonBlank c.label with
      | some a =>
        obtain ⟨hfield, before, after, hsplit, hbefore⟩ := List.find?_eq_some_iff_append.mp hfind
        rw [Option.bind_some, eq_some_of_nonBlank hblank]
        refine .source unlike hsplit (beq_iff_eq.mp hfield) hblank fun p hp hp' => ?_
        simpa [hp'] using hbefore p hp
      | none =>
        by_cases hhidden : c.label ≠ none ∨ ∃ p ∈ columns, p.field = field ∧ nonBlank p.label ≠ none
        · exact absurd ⟨unlike, c, hfind, hblank, hhidden⟩ hhides
        · simp only [not_or, not_exists, not_and, ne_eq, Classical.not_not] at hhidden
          rw [Option.bind_some, hhidden.1]
          exact .field unlike hhidden.2

end

/-- A request that selects one field twice, the second time with a label, and sorts by it. -/
def Request.selectedTwice : Request where
  table := "t"
  measures := [⟨"x", .sum, none⟩, ⟨"x", .avg, some "y"⟩]
  orders := [⟨"x", none⟩]

/-- By the rule the label of the second column is sorted by. -/
theorem sorting_selectedTwice : ∃ s : Statement,
    Request.selectedTwice.compile Request.defaultTimeColumn = .ok s ∧
    SortTarget s.projections "x" "y" ∧ s.sorting = [⟨"x", .asc⟩] ∧
    s.sql = "SELECT SUM(x), AVG(x) AS y FROM t ORDER BY x ASC" := by
  refine ⟨_, rfl, ?_, by decide +kernel, by decide +kernel⟩
  have hsplit : [Projection.measure .sum "x" none, .measure .avg "x" (some "y")] =
      [.measure .sum "x" none] ++ .measure .avg "x" (some "y") :: [] := rfl
  exact .source (by decide +kernel) hsplit rfl rfl (by decide +kernel)

end Rollup
