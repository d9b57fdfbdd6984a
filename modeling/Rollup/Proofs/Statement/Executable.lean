import Mathlib.Data.List.Basic
import Rollup.Service.Executor
import Rollup.Proofs.Statement.Compiled
/-!
Executable texts. The text that a database is given has a limit put in front of an offset that
stands alone. The place is found by searching the finished text for the last offset clause; what a
statement ends with is never taken for one, whatever its names and templates say.
-/
namespace Rollup

/-- Two splits of a list at the last place of an element are one split. -/
theorem append_cons_inj_of_notMem_right {α : Type} {x₁ x₂ z₁ z₂ : List α} {a : α} (h₁ : a ∉ z₁)
    (h₂ : a ∉ z₂) (h : x₁ ++ a :: z₁ = x₂ ++ a :: z₂) : x₁ = x₂ ∧ z₁ = z₂ := by
  rcases List.append_eq_append_iff.mp h with ⟨as, rfl, hz⟩ | ⟨as, rfl, hz⟩
  · cases as with
    | nil => simpa using hz
    | cons b as =>
      exfalso
      apply h₁
      rw [(List.cons.inj hz).2]
      simp
  · cases as with
    | nil => simpa [eq_comm] using hz
    | cons b as =>
      exfalso
      apply h₂
      rw [(List.cons.inj hz).2]
      simp

/-! ### The search for the last offset clause -/

theorem eq_append_of_lastPlace? {part cs : List Char} {i : Nat} (h : lastPlace? part cs = some i) :
    ∃ before after, cs = before ++ part ++ after ∧ before.length = i := by
  induction cs generalizing i with
  | nil =>
    simp only [lastPlace?, Option.ite_none_right_eq_some, List.isEmpty_iff, Option.some.injEq] at h
    obtain ⟨rfl, rfl⟩ := h
    exact ⟨[], [], rfl, rfl⟩
  | cons c cs ih =>
    rw [lastPlace?] at h
    cases hrest : lastPlace? part cs with
    | some j =>
      rw [hrest] at h
      cases h
      obtain ⟨before, after, rfl, rfl⟩ := ih hrest
      exact ⟨c :: before, after, by simp, rfl⟩
    | none =>
      rw [hrest] at h
      simp only [Option.ite_none_right_eq_some, Option.some.injEq] at h
      obtain ⟨after, hafter⟩ := List.isPrefixOf_iff_prefix.mp h.1
      exact ⟨[], after, by simpa using hafter.symm, h.2⟩

theorem lastPlace?_append {part t : List Char} {i : Nat} (h : lastPlace? part t = some i)
    (cs : List Char) : lastPlace? part (cs ++ t) = some (cs.length + i) := by
  induction cs with
  | nil => simpa using h
  | cons c cs ih =>
    rw [List.cons_append, lastPlace?, ih]
    simp only [List.length_cons, Option.some.injEq]
    omega

/-- The text ends in an offset clause, or in one whose number is missing. -/
def EndsInOffset (cs : List Char) : Prop :=
  ∃ before number, cs = before ++ offsetClause ++ number ∧ ∀ c ∈ number, c.isDigit = true

theorem blank_notMem_of_digits {number : List Char} (h : ∀ c ∈ number, c.isDigit = true) :
    ' ' ∉ number := by
  intro hmem
  have hdigit := h ' ' hmem
  revert hdigit
  decide

theorem limitOffset_of_not_endsInOffset {cs : List Char} (h : ¬EndsInOffset cs) :
    limitOffset cs = cs := by
  unfold limitOffset
  split
  next i hi =>
    obtain ⟨before, number, rfl, rfl⟩ := eq_append_of_lastPlace? hi
    rw [← List.length_append, List.drop_left, if_neg]
    intro hdigits
    exact h ⟨before, number, rfl, by simpa using hdigits⟩
  next => rfl

/-- Behind the clause there are only digits, so that no other one is found. -/
theorem lastPlace?_offset {number : List Char} (h : ∀ c ∈ number, c.isDigit = true) :
    lastPlace? offsetClause (offsetClause ++ number) = some 0 := by
  have hclause : offsetClause = ' ' :: "OFFSET ".toList := by decide
  have hrest : lastPlace? offsetClause ("OFFSET ".toList ++ number) = none := by
    rw [Option.eq_none_iff_forall_ne_some]
    intro i hi
    obtain ⟨before, after, heq, _⟩ := eq_append_of_lastPlace? hi
    -- The clause has two blanks, but only one is left to find it in.
    have hone : ("OFFSET ".toList ++ number).count ' ' = 1 := by
      rw [List.count_append, List.count_eq_zero.mpr (blank_notMem_of_digits h)]
      decide
    have htwo : offsetClause.count ' ' = 2 := by decide
    rw [heq, List.count_append, List.count_append, htwo] at hone
    omega
  have hfits : offsetClause.isPrefixOf (offsetClause ++ number) = true :=
    List.isPrefixOf_iff_prefix.mpr (List.prefix_append _ _)
  have hcons : offsetClause ++ number = ' ' :: ("OFFSET ".toList ++ number) := by
    rw [hclause, List.cons_append]
  rw [hcons] at hfits ⊢
  rw [lastPlace?, hrest]
  simp only [hfits, if_true]

theorem limitOffset_append (cs : List Char) {number : List Char}
    (h : ∀ c ∈ number, c.isDigit = true) :
    limitOffset (cs ++ (offsetClause ++ number)) =
      cs ++ (" LIMIT -1".toList ++ (offsetClause ++ number)) := by
  have hdrop : (cs ++ (offsetClause ++ number)).drop (cs.length + offsetClause.length) =
      number := by
    rw [← List.append_assoc, ← List.length_append, List.drop_left]
  unfold limitOffset
  rw [lastPlace?_append (lastPlace?_offset h)]
  simp only [Nat.add_zero, hdrop]
  rw [if_pos (by simpa using h), List.take_left, List.drop_left, List.append_assoc]

/-! ### Texts that do not end in an offset -/

theorem not_endsInOffset_of_last {cs : List Char} {c : Char} (hlast : cs.getLast? = some c)
    (hdigit : c.isDigit = false) (hblank : c ≠ ' ') : ¬EndsInOffset cs := by
  rintro ⟨before, number, rfl, hnumber⟩
  rcases List.eq_nil_or_concat number with rfl | ⟨digits, d, rfl⟩
  · have hc : ' ' = c := by
      rw [List.append_nil, List.getLast?_append] at hlast
      exact Option.some.inj hlast
    exact hblank hc.symm
  · have hc : d = c := by
      rw [List.concat_eq_append, List.getLast?_append] at hlast
      simpa using hlast
    have hd := hnumber d (by simp)
    rw [hc, hdigit] at hd
    cases hd

/-- A word at the end, even one of digits, is no number of an offset if another keyword or a comma
stands in front of it. -/
theorem not_endsInOffset_of_word (before : List Char) {word : List Char} {c : Char} (hc : c ≠ 'T')
    (hword : ' ' ∉ word) : ¬EndsInOffset (before ++ [c] ++ ' ' :: word) := by
  rintro ⟨front, number, heq, hnumber⟩
  have hclause : offsetClause = " OFFSE".toList ++ ['T'] ++ [' '] := by decide
  have hsplit : front ++ offsetClause ++ number =
      (front ++ " OFFSE".toList ++ ['T']) ++ ' ' :: number := by
    rw [hclause]
    simp only [List.append_assoc, List.cons_append, List.nil_append]
  -- The last blanks of both readings are one, and so are the characters in front of them.
  rw [hsplit] at heq
  obtain ⟨hfront, _⟩ :=
    append_cons_inj_of_notMem_right hword (blank_notMem_of_digits hnumber) heq
  exact hc (List.append_singleton_inj.mp hfront).2

/-! ### What a statement ends with -/

/-- The last element of a clause stands behind the heading or behind a separator. -/
theorem clauseText_concat (heading separator : String) (ts : List String) (t : String) :
    ∃ start, clauseText heading separator (ts ++ [t]) = start ++ heading ++ t ∨
      clauseText heading separator (ts ++ [t]) = start ++ separator ++ t := by
  unfold clauseText
  cases ts with
  | nil => exact ⟨"", .inl (by simp)⟩
  | cons u us =>
    refine ⟨heading ++ separator.intercalate (u :: us), .inr ?_⟩
    rw [String.intercalate_append_of_ne_nil (by simp) (by simp)]
    simp [← String.toList_inj]

theorem getLast?_append_of_some {front t : String} {c : Char} (h : t.toList.getLast? = some c) :
    (front ++ t).toList.getLast? = some c := by
  rw [String.toList_append, List.getLast?_append, h, Option.some_or]

theorem Predicate.last_sql (p : Predicate) :
    ∃ c, p.sql.toList.getLast? = some c ∧ c.isDigit = false ∧ c ≠ ' ' := by
  cases p with
  | compare field op value =>
    exact ⟨'?', getLast?_append_of_some (t := " ?") (by decide), by decide, by decide⟩
  | like field pattern =>
    exact ⟨'?', getLast?_append_of_some (t := " LIKE ?") (by decide), by decide, by decide⟩
  | between field low high =>
    exact ⟨'?', getLast?_append_of_some (t := " BETWEEN ? AND ?") (by decide), by decide, by decide⟩
  | inList field negated values =>
    exact ⟨')', getLast?_append_of_some (t := ")") (by decide), by decide, by decide⟩
  | isNull field =>
    exact ⟨'L', getLast?_append_of_some (t := " IS NULL") (by decide), by decide, by decide⟩

theorem SortKey.last_sql (k : SortKey) : k.sql.toList.getLast? = some 'C' := by
  unfold sql
  cases k.direction <;> simp [Direction.keyword]

/-- The end of a clause is the end of its last element. -/
theorem getLast?_clauseText {heading separator : String} {ts : List String} {t : String} {c : Char}
    (h : t.toList.getLast? = some c) :
    (clauseText heading separator (ts ++ [t])).toList.getLast? = some c := by
  obtain ⟨start, heq | heq⟩ := clauseText_concat heading separator ts t
  · rw [heq]
    exact getLast?_append_of_some h
  · rw [heq]
    exact getLast?_append_of_some h

theorem Grouping.not_endsInOffset {g : Grouping} (hg : ' ' ∉ g.field.toList) (front : String)
    (gs : List Grouping) :
    ¬EndsInOffset
      (front ++ clauseText " GROUP BY " ", " ((gs ++ [g]).map Grouping.sql)).toList := by
  rw [List.map_append, List.map_singleton]
  cases hbucket : g.bucket with
  | some unit =>
    have hlast : g.sql.toList.getLast? = some ')' := by
      unfold sql
      rw [hbucket]
      exact getLast?_append_of_some (t := ")") (by decide)
    exact not_endsInOffset_of_last (getLast?_append_of_some (getLast?_clauseText hlast))
      (by decide) (by decide)
  | none =>
    have hsql : g.sql = g.field := by simp [sql, hbucket]
    rw [hsql]
    obtain ⟨start, heq | heq⟩ := clauseText_concat " GROUP BY " ", " (gs.map Grouping.sql) g.field
    · have hword := not_endsInOffset_of_word (front ++ start ++ " GROUP B").toList
        (c := 'Y') (by decide) hg
      simpa [heq] using hword
    · have hword := not_endsInOffset_of_word (front ++ start).toList
        (c := ',') (by decide) hg
      simpa [heq] using hword

/-- Only names that can stand at the end matter: the table's, and the fields grouped by. -/
theorem Statement.not_endsInOffset_base {s : Statement} (table : ' ' ∉ s.table.toList)
    (fields : ∀ g ∈ s.groupings, ' ' ∉ g.field.toList) : ¬EndsInOffset s.baseText.toList := by
  unfold baseText
  rcases List.eq_nil_or_concat s.sorting with hsorting | ⟨ks, k, hsorting⟩
  · have horder : s.orderText = "" := by simp [orderText, hsorting, clauseText]
    rw [horder, String.append_empty]
    rcases List.eq_nil_or_concat s.groupings with hgroupings | ⟨gs, g, hgroupings⟩
    · have hgroup : s.groupText = "" := by simp [groupText, hgroupings, clauseText]
      rw [hgroup, String.append_empty]
      rcases List.eq_nil_or_concat s.predicates with hpredicates | ⟨ps, p, hpredicates⟩
      · have hwhere : s.whereText = "" := by simp [whereText, hpredicates, clauseText]
        have hword := not_endsInOffset_of_word (s.selectText ++ " FRO").toList
          (c := 'M') (by decide) table
        rw [hwhere, String.append_empty]
        simpa [fromText] using hword
      · obtain ⟨c, hlast, hdigit, hblank⟩ := p.last_sql
        unfold whereText
        rw [hpredicates, List.concat_eq_append, List.map_append, List.map_singleton]
        exact not_endsInOffset_of_last (getLast?_append_of_some (getLast?_clauseText hlast)) hdigit
          hblank
    · unfold groupText
      rw [hgroupings, List.concat_eq_append]
      exact Grouping.not_endsInOffset (fields g (by simp [hgroupings])) _ gs
  · unfold orderText
    rw [hsorting, List.concat_eq_append, List.map_append, List.map_singleton]
    exact not_endsInOffset_of_last (getLast?_append_of_some (getLast?_clauseText k.last_sql))
      (by decide) (by decide)

/-! ### Executable texts of statements -/

theorem digits_of_repr {n : Nat} : ∀ c ∈ (toString n).toList, c.isDigit = true := by
  intro c hc
  rw [Nat.toString_eq_repr, Nat.toList_repr] at hc
  exact Nat.isDigit_of_mem_toDigits (by decide) (by decide) hc

theorem ofList_limitOffset (base : String) (m : Nat) :
    String.ofList (limitOffset (base ++ (" OFFSET " ++ toString m)).toList) =
      base ++ (" LIMIT -1" ++ (" OFFSET " ++ toString m)) := by
  have hclause : (" OFFSET " ++ toString m).toList = offsetClause ++ (toString m).toList :=
    String.toList_append
  rw [String.toList_append, hclause, limitOffset_append _ digits_of_repr, ← hclause,
    ← String.toList_append, ← String.toList_append, String.ofList_toList]

/-- A database is given the base and the page of a statement as they are, except that an offset
alone gets a limit that limits nothing. -/
theorem executable_query {r : Request} {timeColumn : String} {s : Statement}
    (compiled : r.compile timeColumn = .ok s) (table : ' ' ∉ r.table.toList)
    (fields : ∀ d ∈ r.dimensions, ' ' ∉ d.field.toList) :
    s.query.executable = s.query.base ++
        (match r.limit, r.offset with
          | none, none => ""
          | some n, none => " LIMIT " ++ toString n
          | some n, some m => " LIMIT " ++ toString n ++ " OFFSET " ++ toString m
          | none, some m => " LIMIT -1 OFFSET " ++ toString m) ∧
      (s.query.executable ≠ s.query.sql ↔ r.limit = none ∧ r.offset.isSome) := by
  have parts := Request.compiled_of_compile compiled
  have hbase : ¬EndsInOffset s.baseText.toList := by
    apply Statement.not_endsInOffset_base
    · rw [parts.table]
      exact fun h => table (Text.mem_of_mem_trim h)
    · intro g hg
      have houtline := parts.outline_eq
      have hgroupings : s.groupings = r.dimensions.map fun d => ⟨d.field, d.unit?⟩ :=
        congrArg Outline.groupings houtline
      rw [hgroupings] at hg
      obtain ⟨d, hd, rfl⟩ := List.mem_map.mp hg
      exact fields d hd
  have hpaged : s.query.paged = r.limit.isSome := by rw [← parts.limit]; rfl
  have hsql : s.query.sql = s.query.base ++ pageText r.limit r.offset := by
    rw [← parts.limit, ← parts.offset]; rfl
  unfold Query.executable
  rw [hpaged, hsql]
  cases r.limit with
  | some n => cases r.offset <;> simp [pageText, ← String.toList_inj]
  | none =>
    cases r.offset with
    | none =>
      have hkept : limitOffset s.query.base.toList = s.query.base.toList :=
        limitOffset_of_not_endsInOffset hbase
      simp [pageText, hkept]
    | some m =>
      have hsuffix : pageText none (some m) = " OFFSET " ++ toString m := String.empty_append
      simp only [Option.isSome_none, Bool.false_eq_true, if_false, hsuffix, ofList_limitOffset]
      have hjoin : " LIMIT -1" ++ (" OFFSET " ++ toString m) =
          " LIMIT -1 OFFSET " ++ toString m := by
        rw [← String.append_assoc]
        rfl
      refine ⟨by rw [hjoin], ?_⟩
      simp [← String.toList_inj]

/-- Offset clauses in a template, in a label and in the table's name. -/
def Request.offsets : Request where
  table := "OFFSET"
  measures := [⟨"OFFSET", .max, some "OFFSET"⟩]
  dimensions := [⟨"day", some "OFFSET", .time, some .month, some " OFFSET 5"⟩,
    ⟨"7", none, .category, none, none⟩]
  offset := some 20

theorem executable_query_offsets :
    ∃ s, Request.offsets.compile "day" = .ok s ∧ ' ' ∉ Request.offsets.table.toList ∧
      (∀ d ∈ Request.offsets.dimensions, ' ' ∉ d.field.toList) ∧
      s.query.executable = s.query.base ++ " LIMIT -1 OFFSET 20" ∧
      s.query.executable ≠ s.query.sql := by
  have htable : ' ' ∉ Request.offsets.table.toList := by decide
  have hfields : ∀ d ∈ Request.offsets.dimensions, ' ' ∉ d.field.toList := by decide
  have hcompiled : Request.offsets.compile "day" = .ok _ := rfl
  obtain ⟨htext, hmoved⟩ := executable_query hcompiled htable hfields
  exact ⟨_, rfl, htable, hfields, htext, hmoved.mpr ⟨rfl, rfl⟩⟩

end Rollup
