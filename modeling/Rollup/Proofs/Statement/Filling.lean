import Rollup.Proofs.Statement.Compiled
import Rollup.Proofs.Statement.Names
/-!
Filled statements. The placeholders of a statement's text and the statement's parameters run in
step: filling the text puts every operand of every condition in its own place.
-/
namespace Rollup

/-- What stands at one place of a filled text. -/
inductive Slot where
  | char (c : Char)
  | param (value : Param)
  deriving Repr, DecidableEq

namespace Slot

def ofText (s : String) : List Slot := s.toList.map char

@[simp] theorem ofText_append (s t : String) : ofText (s ++ t) = ofText s ++ ofText t := by
  simp [ofText]

theorem ofText_intercalate (s : String) (ts : List String) :
    ofText (s.intercalate ts) = (ofText s).intercalate (ts.map ofText) := by
  induction ts with
  | nil => rfl
  | cons t ts ih =>
    cases ts with
    | nil => simp
    | cons u us =>
      rw [String.intercalate_cons_cons, ofText_append, ofText_append, ih]
      simp

end Slot

open Slot (ofText)

/-- Puts parameters in the places of the question marks outside of single quotes, from left to
right; the flag says whether the text starts inside of them. A question mark for which no
parameter is left stays. -/
def fillFrom : Bool → List Char → List Param → List Slot
  | _, [], _ => []
  | quoted, c :: cs, ps =>
    if c = '\'' then .char c :: fillFrom (!quoted) cs ps
    else if c = '?' ∧ quoted = false then
      match ps with
      | [] => .char c :: fillFrom quoted cs []
      | p :: ps => .param p :: fillFrom quoted cs ps
    else .char c :: fillFrom quoted cs ps

def Query.filled (q : Query) : List Slot := fillFrom false q.sql.toList q.params

/-- A condition with its own operands in it. -/
def Predicate.carried : Predicate → List Slot
  | compare field op value => ofText (field ++ " " ++ op.symbol ++ " ") ++ [.param value]
  | like field pattern => ofText (field ++ " LIKE ") ++ [.param pattern]
  | between field low high =>
    ofText (field ++ " BETWEEN ") ++ [.param low] ++ ofText " AND " ++ [.param high]
  | inList field negated values =>
    ofText (field ++ (if negated then " NOT IN (" else " IN (")) ++
      (ofText ", ").intercalate (values.map fun v => [.param v]) ++ ofText ")"
  | isNull field => ofText (field ++ " IS NULL")

namespace Statement

/-- The clause of the conditions with their own operands in them. -/
def carriedWhere (s : Statement) : List Slot :=
  if s.predicates = [] then []
  else ofText " WHERE " ++ (ofText " AND ").intercalate (s.predicates.map Predicate.carried)

/-- The statement without limit and offset, its conditions carrying their own operands. -/
def carriedBase (s : Statement) : List Slot :=
  ofText (s.selectText ++ s.fromText) ++ s.carriedWhere ++ ofText (s.groupText ++ s.orderText)

def carried (s : Statement) : List Slot := s.carriedBase ++ ofText (pageText s.limit s.offset)

end Statement

/-! ### Texts that take parameters -/

/-- A text outside of quotes whose placeholders take exactly these parameters. -/
structure Fills (text : String) (params : List Param) (slots : List Slot) : Prop where
  count : ∀ rest, placeholdersFrom false (text.toList ++ rest) =
    params.length + placeholdersFrom false rest
  fill : ∀ rest more, fillFrom false (text.toList ++ rest) (params ++ more) =
    slots ++ fillFrom false rest more

/-- A text outside of quotes without placeholders. -/
abbrev Inert (text : String) : Prop := Fills text [] (ofText text)

/-- A text without quotes and question marks. -/
def Unmarked (s : String) : Prop := ∀ c ∈ s.toList, c ≠ '\'' ∧ c ≠ '?'

instance (s : String) : Decidable (Unmarked s) := List.decidableBAll _ s.toList

theorem unmarked_append {s t : String} (hs : Unmarked s) (ht : Unmarked t) : Unmarked (s ++ t) := by
  intro c hc
  rw [String.toList_append, List.mem_append] at hc
  exact hc.elim (hs c) (ht c)

theorem unmarked_trim {s : String} (h : Unmarked s) : Unmarked (Text.trim s) := by
  intro c hc
  exact h c (Text.mem_of_mem_trim hc)

theorem unmarked_repr (n : Nat) : Unmarked (toString n) := by
  intro c hc
  rw [Nat.toString_eq_repr, Nat.toList_repr] at hc
  have hdigit := Nat.isDigit_of_mem_toDigits (by decide) (by decide) hc
  constructor <;> rintro rfl <;> revert hdigit <;> decide

/-- Characters that neither open nor close quotes are counted and copied as the flag says. -/
theorem fillFrom_quoted {t : List Char} (ht : '\'' ∉ t) (rest : List Char) (ps : List Param) :
    placeholdersFrom true (t ++ rest) = placeholdersFrom true rest ∧
      fillFrom true (t ++ rest) ps = t.map .char ++ fillFrom true rest ps := by
  induction t with
  | nil => exact ⟨rfl, rfl⟩
  | cons c t ih =>
    have hc : c ≠ '\'' := fun hc => ht (by simp [hc])
    obtain ⟨hcount, hfill⟩ := ih fun hmem => ht (by simp [hmem])
    simp [placeholdersFrom, fillFrom, hc, hcount, hfill]

namespace Fills

variable {s t : String} {ps qs : List Param} {xs ys : List Slot}

theorem append (hs : Fills s ps xs) (ht : Fills t qs ys) :
    Fills (s ++ t) (ps ++ qs) (xs ++ ys) where
  count rest := by
    rw [String.toList_append, List.append_assoc, hs.count, ht.count, List.length_append]
    omega
  fill rest more := by
    rw [String.toList_append, List.append_assoc, List.append_assoc, hs.fill, ht.fill,
      List.append_assoc]

theorem inert_append (hs : Inert s) (ht : Inert t) : Inert (s ++ t) := by
  rw [Inert, Slot.ofText_append]
  exact hs.append ht

theorem of_unmarked (hs : Unmarked s) : Inert s := by
  suffices h : ∀ cs : List Char, (∀ c ∈ cs, c ≠ '\'' ∧ c ≠ '?') → ∀ rest ps,
      placeholdersFrom false (cs ++ rest) = placeholdersFrom false rest ∧
        fillFrom false (cs ++ rest) ps = cs.map .char ++ fillFrom false rest ps from
    ⟨fun rest => by simpa using (h _ hs rest []).1, fun rest more => (h _ hs rest more).2⟩
  intro cs hcs rest ps
  induction cs with
  | nil => exact ⟨rfl, rfl⟩
  | cons c cs ih =>
    obtain ⟨hquote, hmark⟩ := hcs c (by simp)
    obtain ⟨hcount, hfill⟩ := ih fun c' hc' => hcs c' (by simp [hc'])
    simp [placeholdersFrom, fillFrom, hquote, hmark, hcount, hfill]

theorem inert_empty : Inert "" := of_unmarked (by decide)

/-- Between quotes a text is inert whatever it holds, question marks too. -/
theorem of_quoted (hs : '\'' ∉ s.toList) : Inert ("'" ++ s ++ "'") where
  count rest := by
    have h := (fillFrom_quoted hs ('\'' :: rest) []).1
    simp [placeholdersFrom, h]
  fill rest more := by
    have h := (fillFrom_quoted hs ('\'' :: rest) more).2
    simp [fillFrom, Slot.ofText, h]

theorem placeholder (p : Param) : Fills "?" [p] [.param p] where
  count rest := by simp [placeholdersFrom, Nat.add_comm]
  fill rest more := by simp [fillFrom]

theorem placeholders_eq (hs : Fills s ps xs) :
    placeholdersFrom false s.toList = ps.length := by
  simpa [placeholdersFrom] using hs.count []

theorem filled_eq (hs : Fills s ps xs) : fillFrom false s.toList ps = xs := by
  simpa [fillFrom] using hs.fill [] []

/-- Texts that take parameters do so one after the other, whatever inert text parts them. -/
theorem intercalate {α : Type} {text : α → String} {params : α → List Param}
    {slots : α → List Slot} (hsep : Inert s) (as : List α)
    (h : ∀ a ∈ as, Fills (text a) (params a) (slots a)) :
    Fills (s.intercalate (as.map text)) (as.flatMap params)
      ((ofText s).intercalate (as.map slots)) := by
  induction as with
  | nil => exact inert_empty
  | cons a as ih =>
    have ha := h a (by simp)
    have has := ih fun b hb => h b (by simp [hb])
    cases as with
    | nil => simpa using ha
    | cons b bs =>
      simpa [List.append_assoc] using (ha.append hsep).append has

theorem inert_intercalate (hs : Inert s) (texts : List String) (h : ∀ t ∈ texts, Inert t) :
    Inert (s.intercalate texts) := by
  have hfills : Fills (s.intercalate (texts.map id)) (texts.flatMap fun _ => [])
      ((ofText s).intercalate (texts.map ofText)) := intercalate hs texts h
  have hparams : texts.flatMap (fun _ => ([] : List Param)) = [] :=
    List.flatMap_eq_nil_iff.mpr fun _ _ => rfl
  rwa [List.map_id, hparams, ← Slot.ofText_intercalate] at hfills

/-- A clause takes the parameters of its elements; without elements it is no text at all. -/
theorem clause {α : Type} {text : α → String} {params : α → List Param} {slots : α → List Slot}
    {heading : String} (hheading : Inert heading) (hsep : Inert s) (as : List α)
    (h : ∀ a ∈ as, Fills (text a) (params a) (slots a)) :
    Fills (clauseText heading s (as.map text)) (as.flatMap params)
      (if as = [] then [] else ofText heading ++ (ofText s).intercalate (as.map slots)) := by
  cases as with
  | nil => exact inert_empty
  | cons a as => simpa [clauseText] using hheading.append (intercalate hsep (a :: as) h)

theorem inert_clause {heading : String} (hheading : Inert heading) (hsep : Inert s)
    (texts : List String) (h : ∀ t ∈ texts, Inert t) : Inert (clauseText heading s texts) := by
  unfold clauseText
  split
  · exact inert_empty
  · exact hheading.inert_append (inert_intercalate hsep texts h)

end Fills

/-! ### The clauses of a statement -/

open Fills

theorem Grouping.inert_sql {g : Grouping} (h : Unmarked g.field) : Inert g.sql := by
  unfold Grouping.sql
  cases g.bucket with
  | none => exact of_unmarked h
  | some unit =>
    have hunit : '\'' ∉ unit.name.toList := by cases unit <;> decide
    have hsplit : "DATE_TRUNC('" ++ unit.name ++ "', " ++ g.field ++ ")" =
        "DATE_TRUNC(" ++ ("'" ++ unit.name ++ "'") ++ (", " ++ g.field ++ ")") := by
      simp [← String.toList_inj]
    simp only [hsplit]
    have hfield :=
      unmarked_append (unmarked_append (s := ", ") (by decide) h) (t := ")") (by decide)
    exact ((of_unmarked (by decide)).inert_append (of_quoted hunit)).inert_append
      (of_unmarked hfield)

namespace Projection

variable {p : Projection}

theorem inert_expression (h : Unmarked p.field) (ht : ∀ t ∈ p.template?, '\'' ∉ t.toList) :
    Inert p.expression := by
  cases p with
  | dimension expr template label =>
    cases template with
    | none => exact Grouping.inert_sql h
    | some t =>
      have hsplit : "TO_CHAR(" ++ expr.sql ++ ", '" ++ t ++ "')" =
          "TO_CHAR(" ++ expr.sql ++ ", " ++ ("'" ++ t ++ "'") ++ ")" := by
        simp [← String.toList_inj]
      rw [expression, hsplit]
      have hexpr := (of_unmarked (s := "TO_CHAR(") (by decide)).inert_append (Grouping.inert_sql h)
      exact ((hexpr.inert_append (of_unmarked (by decide))).inert_append
        (of_quoted (ht t rfl))).inert_append (of_unmarked (by decide))
  | measure aggregate field label =>
    have hkeyword : Unmarked aggregate.keyword := by cases aggregate <;> decide
    exact of_unmarked (unmarked_append (unmarked_append (unmarked_append hkeyword (by decide)) h)
      (by decide))

theorem inert_sql (h : p.NamesSatisfy Unmarked) (ht : ∀ t ∈ p.template?, '\'' ∉ t.toList) :
    Inert p.sql := by
  have hexpr := inert_expression h.1 ht
  unfold sql
  cases hlabel : p.label with
  | none => exact hexpr
  | some label =>
    exact (hexpr.inert_append (of_unmarked (by decide))).inert_append
      (of_unmarked (h.2 label hlabel))

end Projection

/-- A condition takes its own operands. -/
theorem Predicate.fills {p : Predicate} (h : Unmarked p.field) :
    Fills p.sql p.params p.carried := by
  cases p with
  | compare field op value =>
    have hop : Unmarked op.symbol := by cases op <;> decide
    have htext := unmarked_append (unmarked_append (unmarked_append (t := " ") h (by decide)) hop)
      (t := " ") (by decide)
    have hsplit : field ++ " " ++ op.symbol ++ " ?" = field ++ " " ++ op.symbol ++ " " ++ "?" := by
      simp [← String.toList_inj]
    rw [sql, hsplit]
    exact (of_unmarked htext).append (placeholder value)
  | like field pattern =>
    have hsplit : field ++ " LIKE ?" = field ++ " LIKE " ++ "?" := by simp [← String.toList_inj]
    rw [sql, hsplit]
    exact (of_unmarked (unmarked_append h (by decide))).append (placeholder pattern)
  | between field low high =>
    have hsplit : field ++ " BETWEEN ? AND ?" = field ++ " BETWEEN " ++ "?" ++ " AND " ++ "?" := by
      simp [← String.toList_inj]
    rw [sql, hsplit]
    have hfield := unmarked_append (t := " BETWEEN ") h (by decide)
    have hlow := (of_unmarked hfield).append (placeholder low)
    exact (hlow.append (of_unmarked (s := " AND ") (by decide))).append (placeholder high)
  | inList field negated values =>
    have hopen : Unmarked (if negated then " NOT IN (" else " IN (") := by
      cases negated <;> decide
    have hvalues := intercalate (s := ", ") (of_unmarked (by decide)) values
      fun v _ => placeholder v
    have hall := ((of_unmarked (unmarked_append h hopen)).append hvalues).append
      (of_unmarked (s := ")") (by decide))
    simpa [sql, carried, params, Predicate.field] using hall
  | isNull field => exact of_unmarked (unmarked_append h (by decide))

theorem SortKey.inert_sql {k : SortKey} (h : Unmarked k.target) : Inert k.sql := by
  have hkeyword : Unmarked k.direction.keyword := by cases k.direction <;> decide
  exact of_unmarked (unmarked_append (unmarked_append h (by decide)) hkeyword)

theorem inert_pageText (limit offset : Option Nat) : Inert (pageText limit offset) := by
  unfold pageText
  apply inert_append
  · cases limit with
    | none => exact inert_empty
    | some n => exact of_unmarked (unmarked_append (by decide) (unmarked_repr n))
  · cases offset with
    | none => exact inert_empty
    | some n => exact of_unmarked (unmarked_append (by decide) (unmarked_repr n))

/-- A statement without marks in its names takes exactly its own parameters, condition by
condition. -/
theorem Statement.fills_base {s : Statement} (names : s.outline.NamesSatisfy Unmarked)
    (templates : ∀ p ∈ s.projections, ∀ t ∈ p.template?, '\'' ∉ t.toList) :
    Fills s.baseText s.params s.carriedBase := by
  have hcolumns : Inert s.selectText := by
    apply (of_unmarked (by decide)).inert_append
    apply inert_intercalate (of_unmarked (by decide))
    intro t ht
    obtain ⟨p, hp, rfl⟩ := List.mem_map.mp ht
    exact p.inert_sql (names.projections p hp) (templates p hp)
  have htable : Inert s.fromText := of_unmarked (unmarked_append (by decide) names.table)
  have hwhere : Fills s.whereText s.params s.carriedWhere := by
    apply Fills.clause (of_unmarked (by decide)) (of_unmarked (by decide))
    intro p hp
    exact p.fills (names.conditions p.condition (List.mem_map_of_mem hp))
  have hgroups : Inert s.groupText := by
    apply inert_clause (of_unmarked (by decide)) (of_unmarked (by decide))
    intro t ht
    obtain ⟨g, hg, rfl⟩ := List.mem_map.mp ht
    exact g.inert_sql (names.groupings g hg)
  have horders : Inert s.orderText := by
    apply inert_clause (of_unmarked (by decide)) (of_unmarked (by decide))
    intro t ht
    obtain ⟨k, hk, rfl⟩ := List.mem_map.mp ht
    exact k.inert_sql (names.sorting k hk)
  have hall := ((hcolumns.inert_append htable).append hwhere).append (hgroups.inert_append horders)
  simpa [baseText, carriedBase, String.append_assoc] using hall

/-- Filling the statement of a request puts the ends of the window of time and every filter's
converted literals in their own places, in the order of the request; so it does in the count of
its rows. The window is about the first dimension of time, or about the default column if no
dimension is of time. -/
theorem filled_sql {r : Request} {timeColumn : String} {s : Statement}
    (names : r.NamesSatisfy Unmarked timeColumn) (compiled : r.compile timeColumn = .ok s) :
    ∃ column filters,
      ((∃ front d back, r.dimensions = front ++ d :: back ∧ (∀ e ∈ front, e.kind ≠ .time) ∧
          d.kind = .time ∧ column = d.field) ∨
        (∀ d ∈ r.dimensions, d.kind ≠ .time) ∧ column = timeColumn) ∧
      List.Forall₂ Filter.CarriedBy r.filters filters ∧
      s.predicates = (r.range.map fun window => Predicate.between column
        (.timestamp window.first) (.timestamp window.last)).toList ++ filters ∧
      s.query.placeholders = s.query.params.length ∧ s.query.filled = s.carried ∧
      (Query.count s.query).placeholders = (Query.count s.query).params.length ∧
      (Query.count s.query).filled =
        ofText "SELECT COUNT(*) FROM (" ++ s.carriedBase ++ ofText ") AS total" := by
  have parts := Request.compiled_of_compile compiled
  have hnames : s.outline.NamesSatisfy Unmarked := by
    rw [parts.outline_eq]
    exact names.outline fun _ => unmarked_trim
  have htemplates : ∀ p ∈ s.projections, ∀ t ∈ p.template?, '\'' ∉ t.toList := by
    intro p hp t ht hquote
    have hallowed := parts.template_allowed p hp t ht _ hquote
    revert hallowed
    decide
  have hbase := s.fills_base hnames htemplates
  have hsql : Fills s.sql s.params s.carried := by
    rw [← List.append_nil s.params]
    exact hbase.append (inert_pageText s.limit s.offset)
  have hcount : Fills (countText s.baseText) s.params
      (ofText "SELECT COUNT(*) FROM (" ++ s.carriedBase ++ ofText ") AS total") := by
    have hopen := (of_unmarked (s := "SELECT COUNT(*) FROM (") (by decide)).append hbase
    rw [← List.append_nil s.params]
    exact hopen.append (of_unmarked (s := ") AS total") (by decide))
  obtain ⟨filters, hfilters, hpredicates⟩ := parts.predicates
  exact ⟨_, filters, Dimension.firstTimeField_cases timeColumn r.dimensions, hfilters, hpredicates,
    hsql.placeholders_eq, hsql.filled_eq, hcount.placeholders_eq, hcount.filled_eq⟩

/-- Question marks in a template and in literals, beside a filter without operands; a dimension that
is not of time in front of two that are. -/
def Request.questions : Request where
  table := " orders "
  measures := [⟨"amount", .sum, some "total"⟩]
  dimensions := [{ field := "region" },
    ⟨"created_at", some "month", .time, some .month, some "MM? of YYYY"⟩,
    { field := "closed_at", kind := .time }]
  filters := [⟨.isIn, "status", some (.list [.bare (.text "open?"), .bare (.text "it's")])⟩,
    ⟨.unrecognized, "deleted_at", none⟩,
    ⟨.greaterThan, "amount", some (.single (.typed (.text " 5 ") (some .integer)))⟩]
  range := some ⟨⟨19723, 0, 0⟩, ⟨20088, 86399, 0⟩⟩
  orders := [⟨"created_at", some " DESC "⟩]
  limit := some 10

theorem filled_sql_questions :
    Request.questions.NamesSatisfy Unmarked "creation_date" ∧
      ∃ s filters, Request.questions.compile "creation_date" = .ok s ∧
        s.predicates = .between "created_at" (.timestamp ⟨19723, 0, 0⟩)
          (.timestamp ⟨20088, 86399, 0⟩) :: filters ∧
        s.query.placeholders = 5 ∧ s.query.filled = s.carried := by
  have names : Request.questions.NamesSatisfy Unmarked "creation_date" := by
    constructor <;> decide
  obtain ⟨column, filters, hcolumn, _, hpredicates, hcount, hfilled, _⟩ := filled_sql names rfl
  have hcreated : column = "created_at" := by
    rcases hcolumn with ⟨front, d, back, hdimensions, hfront, htime, rfl⟩ | ⟨hnone, _⟩
    · rcases front with _ | ⟨e, _ | ⟨e', front⟩⟩
      · cases hdimensions
        cases htime
      · cases hdimensions
        rfl
      · have he' : e'.kind = .time := by
          rw [← (List.cons.inj (List.cons.inj hdimensions).2).1]
        exact absurd he' (hfront e' (by simp))
    · exact absurd rfl (hnone _ (List.mem_cons_of_mem _ List.mem_cons_self))
  subst hcreated
  exact ⟨names, _, filters, rfl, hpredicates, hcount, hfilled⟩

end Rollup
