import Mathlib.Logic.Relation
import Rollup.Statement.Query
import Rollup.Statement.Compile
import Rollup.Proofs.Fallible
/-!
Spellings. A request may say the same in several ways: with blank names and templates or none, with
an interval and a template that nothing is truncated to or written by, with its directions in any
case, with blanks around its table, with operands that no condition looks at. Requests that differ
in such spellings only, in however many places, have the same statement or the same error.
-/
namespace Rollup

open Calendar (Interval)
open Fallible

/-! ### Edits that change the spelling only -/

/-- A blank label says no more than none. -/
inductive Measure.Respelled : Measure → Measure → Prop
  | unlabelled (m : Measure) {label : String} (blank : Text.allBlank label = true) :
    Respelled { m with label := some label } { m with label := none }

/-- One edit of a dimension. Categories are not truncated, whatever interval they have, and only
truncated values are written by a template. -/
inductive Dimension.Respelled : Dimension → Dimension → Prop
  | unlabelled (d : Dimension) {label : String} (blank : Text.allBlank label = true) :
    Respelled { d with label := some label } { d with label := none }
  | unformatted (d : Dimension) {format : String} (time : d.kind = .time)
    (blank : Text.allBlank format = true) :
    Respelled { d with format := some format } { d with format := none }
  | formatted (d : Dimension) {format : String} (time : d.kind = .time)
    (blank : Text.allBlank format = true) :
    Respelled { d with format := some format } { d with format := some defaultFormat }
  | category (d : Dimension) (kind : d.kind = .category) (interval : Option Interval)
    (format : Option String) : Respelled d { d with interval := interval, format := format }
  | untruncated (d : Dimension) (time : d.kind = .time) (untruncated : d.interval = none)
    (format : Option String) : Respelled d { d with format := format }

/-- One edit of a filter: an operand of the unrecognized kind, or the brackets around the only
literal of a set. -/
inductive Filter.Respelled : Filter → Filter → Prop
  | unrecognized (f : Filter) (kind : f.kind = .unrecognized) (operand : Option Operand) :
    Respelled f { f with operand := operand }
  | bracketed (f : Filter) (kind : f.kind = .isIn ∨ f.kind = .notIn) (l : Literal) :
    Respelled { f with operand := some (.single l) } { f with operand := some (.list [l]) }

/-- One edit of an order: its direction by the plain name. -/
inductive Order.Respelled : Order → Order → Prop
  | absent (o : Order) :
    Respelled { o with direction := none } { o with direction := some Direction.asc.name }
  | blank (o : Order) {name : String} (blank : Text.allBlank name = true) :
    Respelled { o with direction := some name } { o with direction := some Direction.asc.name }
  | named (o : Order) {name : String} (d : Direction)
    (named : Text.sameAsciiFold (Text.trim name) d.name = true) :
    Respelled { o with direction := some name } { o with direction := some d.name }

/-- One edit of a request, in one place. -/
inductive Request.Respelled : Request → Request → Prop
  | table (r : Request) {before after : String} (hbefore : Text.allBlank before = true)
    (hafter : Text.allBlank after = true) :
    Respelled r { r with table := before ++ r.table ++ after }
  | measure (r : Request) (front back : List Measure) {m n : Measure} (edit : m.Respelled n) :
    Respelled { r with measures := front ++ m :: back } { r with measures := front ++ n :: back }
  | dimension (r : Request) (front back : List Dimension) {d e : Dimension}
    (edit : d.Respelled e) :
    Respelled { r with dimensions := front ++ d :: back }
      { r with dimensions := front ++ e :: back }
  | filter (r : Request) (front back : List Filter) {f g : Filter} (edit : f.Respelled g) :
    Respelled { r with filters := front ++ f :: back } { r with filters := front ++ g :: back }
  | order (r : Request) (front back : List Order) {o p : Order} (edit : o.Respelled p) :
    Respelled { r with orders := front ++ o :: back } { r with orders := front ++ p :: back }
  | format (r : Request) (format : Option String) : Respelled r { r with format := format }

/-! ### What each part is compiled to -/

theorem Measure.Respelled.projection_eq {m n : Measure} (h : m.Respelled n) :
    m.projection = n.projection := by
  cases h with
  | unlabelled m blank => rw [projection, nonBlank_of_blank blank]; rfl

namespace Dimension

variable {d e : Dimension}

/-- Only the template of a truncated dimension is looked at. -/
theorem projection_congr (field : d.field = e.field) (bucket : d.bucket = e.bucket)
    (template : d.bucket.isSome → d.template = e.template)
    (label : nonBlank d.label = nonBlank e.label) : d.projection = e.projection := by
  unfold projection
  rw [field, label, ← bucket]
  cases hb : d.bucket with
  | none => rfl
  | some unit => rw [template (by rw [hb]; rfl)]

theorem bucket_of_category (h : d.kind = .category) : d.bucket = none := by
  unfold bucket
  rw [h]

theorem bucket_of_time (h : d.kind = .time) : d.bucket = d.interval := by
  unfold bucket
  rw [h]

theorem template_of_blank {format : String} (given : d.format = some format)
    (blank : Text.allBlank format = true) : d.template = defaultFormat := by
  unfold template
  rw [given, nonBlank_of_blank blank]
  rfl

theorem Respelled.kind_field_eq (h : d.Respelled e) : (d.kind, d.field) = (e.kind, e.field) := by
  cases h <;> rfl

theorem Respelled.projection_eq (h : d.Respelled e) : d.projection = e.projection := by
  cases h with
  | unlabelled d blank => exact projection_congr rfl rfl (fun _ => rfl) (nonBlank_of_blank blank)
  | unformatted d time blank =>
    exact projection_congr rfl rfl (fun _ => template_of_blank rfl blank) rfl
  | formatted d time blank =>
    exact projection_congr rfl rfl (fun _ => template_of_blank rfl blank) rfl
  | category d kind interval format =>
    have hd := bucket_of_category kind
    have he : Dimension.bucket { d with interval := interval, format := format } = none :=
      bucket_of_category kind
    exact projection_congr rfl (hd.trans he.symm) (fun h => by rw [hd] at h; cases h) rfl
  | untruncated d time untruncated format =>
    have hd := (bucket_of_time time).trans untruncated
    exact projection_congr rfl rfl (fun h => by rw [hd] at h; cases h) rfl

end Dimension

theorem Filter.Respelled.predicate_eq {f g : Filter} (h : f.Respelled g) :
    f.predicate = g.predicate := by
  cases h with
  | unrecognized f kind operand => simp only [predicate, kind]
  | bracketed f kind l =>
    rcases kind with kind | kind
    · simp only [predicate, kind]
      rfl
    · simp only [predicate, kind]
      rfl

namespace Order

theorem direction?_of_nonBlank {o : Order} (h : nonBlank o.direction = none) :
    o.direction? = .ok .asc := by
  unfold direction?
  rw [h]

theorem direction?_of_name {name : String} {d : Direction} (o : Order)
    (named : Text.sameAsciiFold (Text.trim name) d.name = true) :
    direction? { o with direction := some name } = .ok d := by
  have hfold : Text.fold (Text.trim name) = d.name := by
    cases d <;> exact (Text.fold_eq_iff (by decide)).mpr named
  have hname : Direction.ofName? name = some d := by
    unfold Direction.ofName?
    rw [hfold]
    cases d <;> rfl
  have hblank : ¬Text.allBlank name = true := by
    intro h
    rw [(Text.trim_eq_empty_iff name).mpr h] at hfold
    cases d <;> exact absurd hfold (by decide)
  unfold direction?
  rw [nonBlank_of_not_blank hblank]
  simp only [hname]

theorem Respelled.direction?_eq {o p : Order} (h : o.Respelled p) :
    o.direction? = p.direction? := by
  have hasc (o : Order) : direction? { o with direction := some Direction.asc.name } = .ok .asc :=
    direction?_of_name o (by decide)
  cases h with
  | absent o => exact (direction?_of_nonBlank rfl).trans (hasc o).symm
  | blank o blank => exact (direction?_of_nonBlank (nonBlank_of_blank blank)).trans (hasc o).symm
  | named o d named =>
    have hcanonical : Text.sameAsciiFold (Text.trim d.name) d.name = true := by
      cases d <;> decide
    exact (direction?_of_name o named).trans (direction?_of_name o hcanonical).symm

theorem Respelled.key_eq {o p : Order} (h : o.Respelled p) :
    (o.field, o.direction?) = (p.field, p.direction?) := by
  have hfield : o.field = p.field := by cases h <;> rfl
  rw [hfield, h.direction?_eq]

end Order

namespace Request

variable {r q : Request}

/-- Requests that are alike in all that compiling looks at. -/
structure Alike (r q : Request) : Prop where
  table : r.tableName = q.tableName
  measures : r.measures.map Measure.projection = q.measures.map Measure.projection
  kinds : r.dimensions.map (fun d => (d.kind, d.field)) =
    q.dimensions.map (fun d => (d.kind, d.field))
  dimensions : r.dimensions.map Dimension.projection = q.dimensions.map Dimension.projection
  filters : r.filters.map Filter.predicate = q.filters.map Filter.predicate
  orders : r.orders.map (fun o => (o.field, o.direction?)) =
    q.orders.map (fun o => (o.field, o.direction?))
  range : r.range = q.range
  limit : r.limit = q.limit
  offset : r.offset = q.offset

namespace Alike

variable (h : r.Alike q)
include h

theorem validate_eq : r.validate = q.validate := by
  have htable : Text.allBlank r.table = Text.allBlank q.table := by
    rw [Bool.eq_iff_iff, ← Text.trim_eq_empty_iff, ← Text.trim_eq_empty_iff]
    exact Eq.congr h.table rfl
  have hmeasures : r.measures.isEmpty = q.measures.isEmpty := by
    rw [← List.isEmpty_map, h.measures, List.isEmpty_map]
  unfold validate
  rw [htable, hmeasures]

theorem projections_eq : r.projections = q.projections := by
  have hdimensions : r.dimensions.mapM Dimension.projection =
      q.dimensions.mapM Dimension.projection := mapM_eq_of_map_eq id (fun _ => rfl) h.dimensions
  unfold Request.projections
  rw [hdimensions, h.measures]

theorem timeField_eq : r.timeField = q.timeField := by
  have hfield (s : Request) : s.timeField =
      ((s.dimensions.map fun d => (d.kind, d.field)).find? fun k => k.1 == .time).map (·.2) := by
    rw [List.find?_map, Option.map_map]
    rfl
  rw [hfield, hfield, h.kinds]

theorem predicates_eq (timeColumn : String) :
    r.predicates timeColumn = q.predicates timeColumn := by
  have hfilters : r.filters.mapM Filter.predicate = q.filters.mapM Filter.predicate :=
    mapM_eq_of_map_eq id (fun _ => rfl) h.filters
  unfold predicates rangePredicate?
  rw [hfilters, h.range, h.timeField_eq]

theorem sorting_eq (columns : List Projection) : r.sorting columns = q.sorting columns := by
  let step (o : String × Except CompileError Direction) : Except CompileError SortKey := do
    return ⟨orderTarget columns o.1, ← o.2⟩
  exact mapM_eq_of_map_eq step (fun _ => rfl) h.orders

theorem statement_eq (timeColumn : String) : r.statement timeColumn = q.statement timeColumn := by
  unfold statement
  simp only [h.projections_eq, h.predicates_eq, h.sorting_eq, h.limit, h.offset, h.table]

theorem compile_eq (timeColumn : String) : r.compile timeColumn = q.compile timeColumn := by
  unfold compile
  rw [h.validate_eq, h.statement_eq]

end Alike

theorem Alike.refl (r : Request) : r.Alike r := ⟨rfl, rfl, rfl, rfl, rfl, rfl, rfl, rfl, rfl⟩

theorem map_place {α β : Type} {f : α → β} {a b : α} (h : f a = f b) (front back : List α) :
    (front ++ a :: back).map f = (front ++ b :: back).map f := by
  rw [List.map_append, List.map_cons, h, List.map_append, List.map_cons]

theorem Respelled.alike (h : r.Respelled q) : r.Alike q := by
  cases h with
  | table r hbefore hafter =>
    exact { Alike.refl r with table := (Text.trim_framed hbefore hafter r.table).symm }
  | measure r front back edit =>
    exact { Alike.refl r with measures := map_place edit.projection_eq front back }
  | dimension r front back edit =>
    exact { Alike.refl r with
      kinds := map_place edit.kind_field_eq front back
      dimensions := map_place edit.projection_eq front back }
  | filter r front back edit =>
    exact { Alike.refl r with filters := map_place edit.predicate_eq front back }
  | order r front back edit =>
    exact { Alike.refl r with orders := map_place edit.key_eq front back }
  | format r format => exact { Alike.refl r with }

end Request

/-- Any number of edits of spellings, in any direction, leaves the statement or the error. -/
theorem compile_eq_of_respelled {r q : Request} (h : Relation.EqvGen Request.Respelled r q)
    (timeColumn : String) : r.compile timeColumn = q.compile timeColumn := by
  induction h with
  | rel r q edit => exact edit.alike.compile_eq timeColumn
  | refl r => rfl
  | symm r q _ ih => exact ih.symm
  | trans r q s _ _ ih₁ ih₂ => exact ih₁.trans ih₂

/-- A request that says too much, and the same request without that. -/
def Request.wordy : Request where
  table := "\t" ++ "orders" ++ "\n"
  measures := [⟨"amount", .sum, some " "⟩]
  dimensions := [{ field := "region", interval := some .week, format := some "';--" }]
  filters := [⟨.isIn, "status", some (.single (.bare (.text "paid")))⟩]
  orders := [⟨"region", some " Desc "⟩]

def Request.terse : Request where
  table := "orders"
  measures := [⟨"amount", .sum, none⟩]
  dimensions := [{ field := "region" }]
  filters := [⟨.isIn, "status", some (.list [.bare (.text "paid")])⟩]
  orders := [⟨"region", some "desc"⟩]

theorem compile_eq_of_respelled_wordy : ∃ s, Request.wordy.compile "day" = .ok s ∧
    Request.terse.compile "day" = .ok s ∧ s.query.sql =
      "SELECT region, SUM(amount) FROM orders WHERE status IN (?) " ++
        "GROUP BY region ORDER BY region DESC" := by
  let r₁ := { Request.wordy with table := "orders" }
  let r₂ := { r₁ with measures := [⟨"amount", .sum, none⟩] }
  let r₃ := { r₂ with dimensions := [{ field := "region" }] }
  let r₄ := { r₃ with filters := [⟨.isIn, "status", some (.list [.bare (.text "paid")])⟩] }
  have trimmed : Request.Respelled r₁ Request.wordy := .table r₁ rfl rfl
  have unlabelled : r₁.Respelled r₂ :=
    .measure r₁ [] [] (.unlabelled ⟨"amount", .sum, none⟩ rfl)
  have plain : r₂.Respelled r₃ := .dimension r₂ [] []
    (.category { field := "region", interval := some .week, format := some "';--" } rfl none none)
  have bracketed : r₃.Respelled r₄ := .filter r₃ [] []
    (.bracketed ⟨.isIn, "status", none⟩ (.inl rfl) (.bare (.text "paid")))
  have named : r₄.Respelled Request.terse := .order r₄ [] []
    (.named ⟨"region", none⟩ .desc (by decide +kernel))
  have all : Relation.EqvGen Request.Respelled Request.wordy Request.terse :=
    .trans _ r₁ _ (.symm _ _ (.rel _ _ trimmed)) (.trans _ r₂ _ (.rel _ _ unlabelled)
      (.trans _ r₃ _ (.rel _ _ plain) (.trans _ r₄ _ (.rel _ _ bracketed) (.rel _ _ named))))
  have hterse : Request.terse.compile "day" = .ok _ := rfl
  exact ⟨_, (compile_eq_of_respelled all "day").trans hterse, hterse, by decide +kernel⟩

end Rollup
