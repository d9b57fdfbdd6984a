import Rollup.Proofs.Statement.Compiled
import Rollup.Proofs.Statement.Names
import Rollup.Proofs.Statement.Reader
/-!
Unique readability. The text of a statement whose names are names can be read in one way only,
whatever its templates hold: the reader takes every clause for what it was written as.
-/
namespace Rollup

open Calendar (Interval)
open Text (Scanner)
open Text.Scanner

/-! ### Where names end -/

/-- The characters that may not follow a name which is read as a column. -/
def isNameOrOpen (c : Char) : Bool := isNameChar c || c == '('

theorem stops_of_stops_open {rest : List Char} (h : Stops isNameOrOpen rest) :
    Stops isNameChar rest := by
  intro c hc
  exact (Bool.or_eq_false_iff.mp (h c hc)).1

/-- A word of name characters with a parenthesis behind them. -/
def IsCall (w : String) : Prop := (w.toList.dropWhile isNameChar).head? = some '('

instance (w : String) : Decidable (IsCall w) := by unfold IsCall; infer_instance

/-- A name is not taken for a call, even if it is the called function's name. -/
theorem IsName.not_call {s w : String} (hs : IsName s) (hw : IsCall w) {rest : List Char}
    (hrest : Stops isNameOrOpen rest) : ¬w.toList <+: s.toList ++ rest := by
  rintro ⟨more, hmore⟩
  have hdrop := (takeWhile_append_of_stops hs.2 (stops_of_stops_open hrest)).2
  have hne : (w.toList.dropWhile isNameChar).isEmpty = false := by
    unfold IsCall at hw
    cases hcs : w.toList.dropWhile isNameChar with
    | nil => simp [hcs] at hw
    | cons c cs => rfl
  -- What is no part of a name: the parenthesis in the word, and what follows the name.
  rw [← hmore, List.dropWhile_append, hne] at hdrop
  have hopen : rest.head? = some '(' := by
    rw [← hdrop, if_neg (by simp), List.head?_append, hw]
    rfl
  have hstop := hrest '(' hopen
  revert hstop
  decide

namespace Outline.Reader

theorem name_append {s : String} (hs : IsName s) {rest : List Char}
    (hrest : Stops isNameChar rest) : name (s.toList ++ rest) = some (s, rest) := by
  have hne : s.toList.isEmpty = false := by
    rw [List.isEmpty_eq_false_iff]
    exact mt String.toList_eq_nil_iff.mp hs.1
  unfold name
  rw [bind_of_eq (run_append hs.2 hrest), hne, String.ofList_toList]
  rfl

/-! ### Words of the language -/

theorem unit_append (u : Interval) (rest : List Char) :
    unit (u.name.toList ++ rest) = some (u, rest) :=
  oneOf_append (by cases u <;> decide) (by decide) rest

theorem aggregate_append (a : Aggregate) (rest : List Char) :
    aggregate (a.keyword.toList ++ ("(".toList ++ rest)) = some (a, rest) := by
  rw [← List.append_assoc, ← String.toList_append]
  exact oneOf_append (by cases a <;> decide) (by decide) rest

theorem operator_append (op : Operator) (rest : List Char) :
    operator (op.text.toList ++ rest) = some (op, rest) := by
  apply oneOf_append
  · cases op with
    | compare op => cases op <;> decide
    | inList negated => cases negated <;> decide
    | _ => decide
  · decide

theorem direction_append (d : Direction) (rest : List Char) :
    direction (" ".toList ++ (d.keyword.toList ++ rest)) = some (d, rest) := by
  rw [← List.append_assoc, ← String.toList_append]
  exact oneOf_append (by cases d <;> decide) (by decide) rest

/-! ### Columns -/

theorem grouping_append {g : Grouping} (hg : IsName g.field) {rest : List Char}
    (hrest : Stops isNameOrOpen rest) : grouping (g.sql.toList ++ rest) = some (g, rest) := by
  obtain ⟨field, bucket⟩ := g
  cases bucket with
  | none =>
    have hcall := word_eq_none (IsName.not_call (w := "DATE_TRUNC('") hg (by decide) hrest)
    have hfield := name_append hg (stops_of_stops_open hrest)
    unfold grouping
    rw [Grouping.sql, orElse_of_none (bind_of_none hcall), bind_of_eq hfield]
    rfl
  | some u =>
    have hfield := name_append hg (stops_append (w := ")") (by decide) rest)
    apply orElse_of_some
    simp only [Grouping.sql, String.toList_append, List.append_assoc]
    rw [bind_of_eq (word_append _ _), bind_of_eq (unit_append u _), bind_of_eq (word_append _ _),
      bind_of_eq hfield, bind_of_eq (word_append _ _)]
    rfl

/-- A grouping expression is not taken for a call of another function. -/
theorem grouping_not_call {g : Grouping} (hg : IsName g.field) {w : String} (hw : IsCall w)
    (hapart : Apart w "DATE_TRUNC('") {rest : List Char} (hrest : Stops isNameOrOpen rest) :
    ¬w.toList <+: g.sql.toList ++ rest := by
  obtain ⟨field, bucket⟩ := g
  cases bucket with
  | none => exact hg.not_call hw hrest
  | some u =>
    simp only [Grouping.sql, String.toList_append, List.append_assoc]
    exact not_prefix_append hapart _

end Outline.Reader

theorem Projection.sql_eq (p : Projection) :
    p.sql = p.expression ++ optionText " AS " id p.label := by
  unfold sql
  cases p.label with
  | none => exact String.append_empty.symm
  | some label => exact String.append_assoc

namespace Outline.Reader

/-- What may follow a column. -/
structure ColumnEnd (rest : List Char) : Prop where
  stops : Stops isNameOrOpen rest
  label : ¬" AS ".toList <+: rest

theorem label_append {l : Option String} (hl : ∀ s ∈ l, IsName s) {rest : List Char}
    (hrest : ColumnEnd rest) :
    label ((optionText " AS " id l).toList ++ rest) = some (l, rest) := by
  apply behind?_optionText _ hrest.label
  intro s hs
  exact name_append (hl s hs) (stops_of_stops_open hrest.stops)

theorem stops_label (l : Option String) {rest : List Char} (hrest : ColumnEnd rest) :
    Stops isNameOrOpen ((optionText " AS " id l).toList ++ rest) := by
  cases l with
  | none => exact hrest.stops
  | some s =>
    rw [optionText, String.toList_append, List.append_assoc]
    exact stops_append (by decide) _

/-- A column is read as what it is, whatever its template holds but quotes. -/
theorem column_append {p : Projection} (names : p.NamesSatisfy IsName)
    (templates : ∀ t ∈ p.template?, '\'' ∉ t.toList) {rest : List Char} (hrest : ColumnEnd rest) :
    column (p.sql.toList ++ rest) = some (p, rest) := by
  rw [Projection.sql_eq, String.toList_append, List.append_assoc]
  have hlabel := label_append names.2 hrest
  have hstops := stops_label p.label hrest
  unfold column
  cases p with
  | dimension expr template l =>
    cases template with
    | some t =>
      have ht : ∀ c ∈ t.toList, (c != '\'') = true := by
        intro c hc
        have hne : c ≠ '\'' := fun h => templates t rfl (h ▸ hc)
        simpa using hne
      have hquote : ∀ more, Stops (· != '\'') ("')".toList ++ more) := stops_append (by decide)
      have hexpr := fun more => grouping_append (g := expr) names.1
        (stops_append (w := ", '") (by decide) more)
      apply orElse_of_some
      simp only [Projection.expression, String.toList_append, List.append_assoc]
      rw [bind_of_eq (word_append _ _), bind_of_eq (hexpr _), bind_of_eq (word_append _ _),
        bind_of_eq (run_append ht (hquote _)), bind_of_eq (word_append _ _), bind_of_eq hlabel,
        String.ofList_toList]
      rfl
    | none =>
      -- The two calls are tried first, and neither may match a bare expression.
      have hchar := grouping_not_call (g := expr) (w := "TO_CHAR(") names.1 (by decide)
        (by decide) hstops
      have haggregate : aggregate (expr.sql.toList ++ _) = none :=
        oneOf_eq_none fun a _ => grouping_not_call (g := expr) names.1
          (by cases a <;> decide) (by cases a <;> decide) hstops
      rw [Projection.expression, orElse_of_none (bind_of_none (word_eq_none hchar)),
        orElse_of_none (bind_of_none haggregate),
        bind_of_eq (grouping_append (g := expr) names.1 hstops), bind_of_eq hlabel]
      rfl
  | measure a field l =>
    have hfield := fun more => name_append (s := field) names.1
      (stops_append (w := ")") (by decide) more)
    have hchar : ∀ more, ¬"TO_CHAR(".toList <+: a.keyword.toList ++ more := fun more =>
      not_prefix_append (by cases a <;> decide) more
    simp only [Projection.expression, String.toList_append, List.append_assoc]
    rw [orElse_of_none (bind_of_none (word_eq_none (hchar _)))]
    apply orElse_of_some
    rw [bind_of_eq (aggregate_append a _), bind_of_eq (hfield _), bind_of_eq (word_append _ _),
      bind_of_eq hlabel]
    rfl

end Outline.Reader

/-! ### Conditions and sort keys -/

/-- The operands of a condition, where its operator does not fix them. -/
def Condition.operandText (c : Condition) : String :=
  match c.operator with
  | .inList _ => ", ".intercalate (List.replicate c.operands "?") ++ ")"
  | _ => ""

theorem Condition.sql_eq (c : Condition) :
    c.sql = c.field ++ (c.operator.text ++ c.operandText) := by
  obtain ⟨field, op, n⟩ := c
  cases op <;> simp [sql, operandText, Operator.text, String.append_assoc]

theorem Predicate.operands_of_arity {p : Predicate} {n : Nat} (h : n ∈ p.operator.arity?) :
    p.condition.operands = n := by
  cases p <;> cases h <;> rfl

namespace Outline.Reader

theorem operands_append (n : Nat) (rest : List Char) :
    operands ((", ".intercalate (List.replicate n "?")).toList ++ (")".toList ++ rest)) =
      some (n, rest) := by
  unfold operands
  cases n with
  | zero =>
    have hmark : word "?" (")".toList ++ rest) = none :=
      word_eq_none (not_prefix_append (by decide) rest)
    exact (orElse_of_none (bind_of_none (parted_of_none hmark))).trans
      (bind_of_eq (word_append _ _))
  | succ n =>
    have hparted : parted ", " (word "?") ((", ".intercalate
        ((List.replicate (n + 1) ()).map fun _ => "?")).toList ++ (")".toList ++ rest)) =
          some (List.replicate (n + 1) (), ")".toList ++ rest) :=
      parted_append (fun _ => True) (by decide) (fun _ => trivial) (by simp)
        (fun _ _ rest _ => word_append "?" rest) trivial (not_prefix_append (by decide) rest)
    rw [List.map_replicate] at hparted
    apply orElse_of_some
    rw [bind_of_eq hparted, bind_of_eq (word_append _ _), List.length_replicate]
    rfl

theorem condition_append {c : Condition} (name : IsName c.field)
    (arity : ∀ n ∈ c.operator.arity?, c.operands = n) (rest : List Char) :
    condition (c.sql.toList ++ rest) = some (c, rest) := by
  rw [Condition.sql_eq]
  obtain ⟨field, op, n⟩ := c
  have hstops : ∀ more, Stops isNameChar (op.text.toList ++ more) := by
    intro more
    apply stops_append
    cases op with
    | compare op => cases op <;> decide
    | inList negated => cases negated <;> decide
    | _ => decide
  simp only [String.toList_append, List.append_assoc]
  unfold condition
  rw [bind_of_eq (name_append name (hstops _)), bind_of_eq (operator_append op _)]
  cases op with
  | inList negated =>
    simp only [Condition.operandText, String.toList_append, List.append_assoc]
    exact bind_of_eq (operands_append n rest)
  | _ =>
    cases arity _ rfl
    rfl

theorem sortKey_append {k : SortKey} (hk : IsName k.target) (rest : List Char) :
    sortKey (k.sql.toList ++ rest) = some (k, rest) := by
  have htarget := fun more => name_append hk (stops_append (w := " ") (by decide) more)
  unfold sortKey
  simp only [SortKey.sql, String.toList_append, List.append_assoc]
  rw [bind_of_eq (htarget _), bind_of_eq (direction_append k.direction rest)]
  rfl

/-! ### Clauses -/

theorem clause_append {α : Type} (follow : List Char → Prop) {heading separator : String}
    {p : Scanner α} {text : α → String} (hne : separator ≠ "")
    (hsep : ∀ rest, follow (separator.toList ++ rest)) {as : List α}
    (hp : ∀ a ∈ as, ∀ rest, follow rest → p ((text a).toList ++ rest) = some (a, rest))
    {rest : List Char} (hrest : follow rest) (hend : ¬separator.toList <+: rest)
    (hheading : ¬heading.toList <+: rest) :
    clause heading separator p ((clauseText heading separator (as.map text)).toList ++ rest) =
      some (as, rest) := by
  unfold clause
  cases as with
  | nil => exact bind_of_eq (behind?_eq_none hheading)
  | cons a as =>
    have hparted := parted_append follow hne hsep (List.cons_ne_nil a as) hp hrest hend
    rw [List.map_cons, clauseText, List.isEmpty_cons, ← List.map_cons (f := text),
      if_neg Bool.false_ne_true, String.toList_append, List.append_assoc,
      bind_of_eq (behind?_append hparted)]
    rfl

/-- The end of the text, or the beginning of one of some clauses. -/
def Opens (headings : List String) (rest : List Char) : Prop :=
  rest = [] ∨ ∃ w ∈ headings, w.toList <+: rest

namespace Opens

variable {headings : List String} {rest : List Char}

theorem not_start {w : String} (h : Opens headings rest) (hne : w ≠ "")
    (hapart : ∀ v ∈ headings, Apart w v) : ¬w.toList <+: rest := by
  rcases h with rfl | ⟨v, hv, more, rfl⟩
  · rw [List.prefix_nil]
    exact mt String.toList_eq_nil_iff.mp hne
  · exact not_prefix_append (hapart v hv) more

theorem stops {test : Char → Bool} (h : Opens headings rest)
    (hheads : ∀ v ∈ headings, v.toList.head?.map test = some false) : Stops test rest := by
  rcases h with rfl | ⟨v, hv, more, rfl⟩
  · intro c hc
    cases hc
  · exact stops_append (hheads v hv) more

theorem cons_of_none (h : Opens headings rest) (w : String) : Opens (w :: headings) rest := by
  rcases h with h | ⟨v, hv, hstart⟩
  · exact .inl h
  · exact .inr ⟨v, List.mem_cons_of_mem w hv, hstart⟩

theorem clause (h : Opens headings rest) (heading separator : String) (elements : List String) :
    Opens (heading :: headings) ((clauseText heading separator elements).toList ++ rest) := by
  unfold clauseText
  split
  · exact h.cons_of_none heading
  · rw [String.toList_append, List.append_assoc]
    exact .inr ⟨heading, List.mem_cons_self, List.prefix_append _ _⟩

theorem option {α : Type} (h : Opens headings rest) (heading : String) (text : α → String)
    (x : Option α) : Opens (heading :: headings) ((optionText heading text x).toList ++ rest) := by
  cases x with
  | none => exact h.cons_of_none heading
  | some a =>
    rw [optionText, String.toList_append, List.append_assoc]
    exact .inr ⟨heading, List.mem_cons_self, List.prefix_append _ _⟩

end Opens

theorem pageText_eq (limit offset : Option Nat) :
    pageText limit offset =
      optionText " LIMIT " toString limit ++ optionText " OFFSET " toString offset := by
  cases limit <;> cases offset <;> rfl

/-! ### Statements -/

theorem columns_append {ps : List Projection} (nonempty : ps ≠ [])
    (names : ∀ p ∈ ps, p.NamesSatisfy IsName)
    (templates : ∀ p ∈ ps, ∀ t ∈ p.template?, '\'' ∉ t.toList) (rest : List Char) :
    parted ", " column
        ((", ".intercalate (ps.map Projection.sql)).toList ++ (" FROM ".toList ++ rest)) =
      some (ps, " FROM ".toList ++ rest) := by
  have hsep : ∀ rest, ColumnEnd (", ".toList ++ rest) := fun rest =>
    ⟨stops_append (by decide) rest, not_prefix_append (by decide) rest⟩
  have hfrom : ColumnEnd (" FROM ".toList ++ rest) :=
    ⟨stops_append (by decide) rest, not_prefix_append (by decide) rest⟩
  have hcolumn : ∀ p ∈ ps, ∀ rest, ColumnEnd rest →
      column (p.sql.toList ++ rest) = some (p, rest) :=
    fun p hp _ hrest => column_append (names p hp) (templates p hp) hrest
  exact parted_append ColumnEnd (by decide) hsep nonempty hcolumn hfrom
    (not_prefix_append (by decide) rest)

theorem conditions_append {cs : List Condition} (names : ∀ c ∈ cs, IsName c.field)
    (arities : ∀ c ∈ cs, ∀ n ∈ c.operator.arity?, c.operands = n) {rest : List Char}
    (h : Opens [" GROUP BY ", " ORDER BY ", " LIMIT ", " OFFSET "] rest) :
    clause " WHERE " " AND " condition
        ((clauseText " WHERE " " AND " (cs.map Condition.sql)).toList ++ rest) =
      some (cs, rest) := by
  have hcondition : ∀ c ∈ cs, ∀ rest, True → condition (c.sql.toList ++ rest) = some (c, rest) :=
    fun c hc rest _ => condition_append (names c hc) (arities c hc) rest
  exact clause_append (fun _ => True) (by decide) (fun _ => trivial) hcondition trivial
    (h.not_start (by decide) (by decide)) (h.not_start (by decide) (by decide))

theorem groupings_append {gs : List Grouping} (names : ∀ g ∈ gs, IsName g.field)
    {rest : List Char} (h : Opens [" ORDER BY ", " LIMIT ", " OFFSET "] rest) :
    clause " GROUP BY " ", " grouping
        ((clauseText " GROUP BY " ", " (gs.map Grouping.sql)).toList ++ rest) =
      some (gs, rest) := by
  have hgrouping : ∀ g ∈ gs, ∀ rest, Stops isNameOrOpen rest →
      grouping (g.sql.toList ++ rest) = some (g, rest) := fun g hg _ => grouping_append (names g hg)
  exact clause_append (Stops isNameOrOpen) (by decide) (stops_append (by decide)) hgrouping
    (h.stops (by decide)) (h.not_start (by decide) (by decide))
    (h.not_start (by decide) (by decide))

theorem sorting_append {ks : List SortKey} (names : ∀ k ∈ ks, IsName k.target)
    {rest : List Char} (h : Opens [" LIMIT ", " OFFSET "] rest) :
    clause " ORDER BY " ", " sortKey
        ((clauseText " ORDER BY " ", " (ks.map SortKey.sql)).toList ++ rest) =
      some (ks, rest) := by
  have hkey : ∀ k ∈ ks, ∀ rest, True → sortKey (k.sql.toList ++ rest) = some (k, rest) :=
    fun k hk rest _ => sortKey_append (names k hk) rest
  exact clause_append (fun _ => True) (by decide) (fun _ => trivial) hkey trivial
    (h.not_start (by decide) (by decide)) (h.not_start (by decide) (by decide))

theorem bound_append (heading : String) (bound : Option Nat) {rest : List Char}
    (hdigits : Stops Char.isDigit rest) (hheading : ¬heading.toList <+: rest) :
    behind? heading (digits none) ((optionText heading toString bound).toList ++ rest) =
      some (bound, rest) :=
  behind?_optionText (fun n _ => digits_append n hdigits) hheading

/-- Every clause of a statement ends where one of the next ones begins. -/
theorem statement_append {o : Outline} (names : o.NamesSatisfy IsName)
    (nonempty : o.projections ≠ [])
    (templates : ∀ p ∈ o.projections, ∀ t ∈ p.template?, '\'' ∉ t.toList)
    (arities : ∀ c ∈ o.conditions, ∀ n ∈ c.operator.arity?, c.operands = n) :
    statement (o.sql.toList ++ []) = some (o, []) := by
  have hend : Opens [] [] := .inl rfl
  -- From the last clause to the first: what may follow each of them.
  have hoffset := hend.option " OFFSET " toString o.offset
  have hlimit := hoffset.option " LIMIT " toString o.limit
  have horder := hlimit.clause " ORDER BY " ", " (o.sorting.map SortKey.sql)
  have hgroup := horder.clause " GROUP BY " ", " (o.groupings.map Grouping.sql)
  have hwhere := hgroup.clause " WHERE " " AND " (o.conditions.map Condition.sql)
  have columns := columns_append nonempty names.projections templates
  have table := name_append names.table (hwhere.stops (by decide))
  have conditions := conditions_append names.conditions arities hgroup
  have groupings := groupings_append names.groupings horder
  have sorting := sorting_append names.sorting hlimit
  have limit := bound_append " LIMIT " o.limit (hoffset.stops (by decide))
    (hoffset.not_start (by decide) (by decide))
  have offset := bound_append " OFFSET " o.offset (hend.stops (by decide))
    (hend.not_start (by decide) (by decide))
  rw [Outline.sql, Outline.baseText, pageText_eq]
  simp only [String.toList_append, List.append_assoc]
  unfold statement
  rw [bind_of_eq (word_append _ _), bind_of_eq (columns _), bind_of_eq (word_append _ _),
    bind_of_eq table, bind_of_eq conditions, bind_of_eq groupings, bind_of_eq sorting,
    bind_of_eq limit, bind_of_eq offset]
  rfl

end Outline.Reader

/-- An outline is read back from its text. -/
theorem Outline.read?_sql {o : Outline} (names : o.NamesSatisfy IsName)
    (nonempty : o.projections ≠ [])
    (templates : ∀ p ∈ o.projections, ∀ t ∈ p.template?, '\'' ∉ t.toList)
    (arities : ∀ c ∈ o.conditions, ∀ n ∈ c.operator.arity?, c.operands = n) :
    read? o.sql = some o := by
  have h := Reader.statement_append names nonempty templates arities
  rw [List.append_nil] at h
  unfold read? whole?
  rw [h]

/-! ### Requests -/

theorem Request.groupText_eq_empty_iff {r : Request} {timeColumn : String} {s : Statement}
    (h : s.outline = r.outline timeColumn) : s.groupText = "" ↔ r.dimensions = [] := by
  have hgroupings : s.groupings = r.dimensions.map fun d => ⟨d.field, d.unit?⟩ :=
    congrArg Outline.groupings h
  unfold Statement.groupText clauseText
  rw [hgroupings]
  cases r.dimensions with
  | nil => simp
  | cons d ds => simp [← String.toList_inj]

theorem Request.Compiled.read?_sql {r : Request} {timeColumn : String} {s : Statement}
    (h : r.Compiled timeColumn s) (names : r.NamesSatisfy IsName timeColumn) :
    Outline.read? s.query.sql = some s.outline := by
  change Outline.read? s.sql = some s.outline
  rw [s.sql_eq_outline_sql]
  apply Outline.read?_sql
  · rw [h.outline_eq]
    exact names.outline fun _ => IsName.trim
  · change s.projections ≠ []
    rw [h.projections]
    simp [columns, h.measures]
  · intro p hp t ht hquote
    have hallowed := h.template_allowed p hp t ht _ hquote
    revert hallowed
    decide
  · intro c hc n hn
    obtain ⟨p, _, rfl⟩ := List.mem_map.mp hc
    exact p.operands_of_arity hn

/-- The text of a request's statement can be read in one way only, which gives back the columns
with their templates, the table, the conditions, the groupings, the sort keys and the page. -/
theorem sql_read_uniquely {r : Request} {timeColumn : String} {s : Statement}
    (names : r.NamesSatisfy IsName timeColumn) (compiled : r.compile timeColumn = .ok s) :
    Outline.read? s.query.sql = some s.outline ∧ s.outline = r.outline timeColumn ∧
      s.outline.groupings = s.outline.projections.filterMap Projection.grouping? ∧
      (s.groupText = "" ↔ r.dimensions = []) ∧
      ∀ (q : Request) (column : String) (t : Statement), q.NamesSatisfy IsName column →
        q.compile column = .ok t → t.query.sql = s.query.sql →
          q.outline column = r.outline timeColumn := by
  have parts := Request.compiled_of_compile compiled
  have hread := parts.read?_sql names
  refine ⟨hread, parts.outline_eq, rfl, Request.groupText_eq_empty_iff parts.outline_eq, ?_⟩
  intro q column t qnames qcompiled hsql
  have qparts := Request.compiled_of_compile qcompiled
  have qread := qparts.read?_sql qnames
  rw [hsql, hread] at qread
  rw [← parts.outline_eq, ← qparts.outline_eq]
  exact (Option.some.inj qread).symm

/-- Names that are words of the language, and a template that looks like the rest of a statement;
the states to look for are given. -/
def Request.keywords (states : List Literal) : Request where
  table := "FROM"
  measures := [⟨"COUNT", .sum, some "AS"⟩]
  dimensions := [⟨"DATE_TRUNC", some "month", .time, some .month, some "), x FROM y WHERE ? AND ("⟩,
    ⟨"TO_CHAR", none, .category, none, none⟩]
  filters := [⟨.isIn, "IN", some (.list states)⟩, ⟨.unrecognized, "AND", none⟩]
  orders := [⟨"DATE_TRUNC", some "desc"⟩, ⟨"BY", none⟩]
  limit := some 10

theorem sql_read_uniquely_keywords :
    ∃ s t, (Request.keywords [.bare (.text "open"), .bare .null]).compile "creation_date" = .ok s ∧
      (Request.keywords [.bare (.text "?"), .bare (.bool true)]).compile "LIMIT" = .ok t ∧
      t.query.sql = s.query.sql ∧ Outline.read? s.query.sql = some s.outline ∧
      (Request.keywords [.bare (.text "?"), .bare (.bool true)]).outline "LIMIT" = s.outline := by
  have names : (Request.keywords [.bare (.text "open"), .bare .null]).NamesSatisfy IsName
      "creation_date" := by
    constructor <;> decide
  have qnames : (Request.keywords [.bare (.text "?"), .bare (.bool true)]).NamesSatisfy IsName
      "LIMIT" := by
    constructor <;> decide
  obtain ⟨hread, houtline, _, _, hunique⟩ := sql_read_uniquely names rfl
  have heq := hunique (Request.keywords [.bare (.text "?"), .bare (.bool true)]) "LIMIT" _ qnames
    rfl rfl
  exact ⟨_, _, rfl, rfl, rfl, hread, heq.trans houtline.symm⟩

end Rollup
