import Mathlib.Logic.Function.Iterate
import Rollup.Proofs.Statement.Filling
/-!
Paging. Limit and offset are the last thing that a statement says, and the only thing that its
count leaves out: requests that differ in them have one base, one list of parameters and one count,
however often the rows of a count are counted again.
-/
namespace Rollup

open Fallible

/-! ### Placeholders in front of an unmarked text -/

theorem placeholdersFrom_of_unmarked {s : String} (hs : Unmarked s) (quoted : Bool) :
    placeholdersFrom quoted s.toList = 0 := by
  unfold Unmarked at hs
  generalize s.toList = cs at hs
  induction cs with
  | nil => rfl
  | cons c cs ih =>
    obtain ⟨hquote, hmark⟩ := hs c (by simp)
    have hrest := ih fun d hd => hs d (by simp [hd])
    simp [placeholdersFrom, hquote, hmark, hrest]

/-- Nothing is counted in an unmarked text at the end, not even if a quote before it is open. -/
theorem placeholdersFrom_append {s : String} (hs : Unmarked s) (quoted : Bool) (cs : List Char) :
    placeholdersFrom quoted (cs ++ s.toList) = placeholdersFrom quoted cs := by
  induction cs generalizing quoted with
  | nil => exact placeholdersFrom_of_unmarked hs quoted
  | cons c cs ih => simp only [List.cons_append, placeholdersFrom, ih]

theorem placeholders_countText (base : String) :
    placeholdersFrom false (countText base).toList = placeholdersFrom false base.toList := by
  have hopen : Inert "SELECT COUNT(*) FROM (" := Fills.of_unmarked (by decide)
  have hclose : Unmarked ") AS total" := by decide
  unfold countText
  rw [String.toList_append, placeholdersFrom_append hclose, String.toList_append, hopen.count,
    List.length_nil, Nat.zero_add]

theorem unmarked_pageText (limit offset : Option Nat) : Unmarked (pageText limit offset) := by
  unfold pageText
  apply unmarked_append
  · cases limit with
    | none => decide
    | some n => exact unmarked_append (by decide) (unmarked_repr n)
  · cases offset with
    | none => decide
    | some n => exact unmarked_append (by decide) (unmarked_repr n)

theorem Statement.placeholders_query (s : Statement) :
    s.query.placeholders = placeholdersFrom false s.baseText.toList := by
  change placeholdersFrom false (s.baseText ++ pageText s.limit s.offset).toList = _
  rw [String.toList_append]
  exact placeholdersFrom_append (unmarked_pageText s.limit s.offset) false _

/-! ### Counts of counts -/

/-- A text inside of some counts. -/
def nestedCount (n : Nat) (base : String) : String :=
  String.join (List.replicate n "SELECT COUNT(*) FROM (") ++ base ++
    String.join (List.replicate n ") AS total")

theorem join_replicate_succ (n : Nat) (s : String) :
    String.join (List.replicate (n + 1) s) = String.join (List.replicate n s) ++ s := by
  rw [List.replicate_succ', String.join_append]
  simp

theorem countText_nestedCount (n : Nat) (base : String) :
    countText (nestedCount n base) = nestedCount (n + 1) base := by
  unfold countText nestedCount
  have hopen : String.join (List.replicate (n + 1) "SELECT COUNT(*) FROM (") =
      "SELECT COUNT(*) FROM (" ++ String.join (List.replicate n "SELECT COUNT(*) FROM (") := by
    simp [List.replicate_succ]
  rw [hopen, join_replicate_succ]
  simp [← String.toList_inj]

namespace Query

theorem base_iterate_count (n : Nat) (q : Query) : (count^[n] q).base = nestedCount n q.base := by
  induction n with
  | zero => simp [nestedCount]
  | succ n ih =>
    rw [Function.iterate_succ_apply', ← countText_nestedCount, ← ih]
    rfl

theorem params_iterate_count (n : Nat) (q : Query) : (count^[n] q).params = q.params := by
  induction n with
  | zero => rfl
  | succ n ih => rw [Function.iterate_succ_apply', params_count, ih]

/-- All but the first of repeated counts are counts of counts. -/
theorem iterate_count_of_pos {n : Nat} (hn : 1 ≤ n) (q : Query) :
    ∃ inner, count^[n] q = count inner := by
  obtain ⟨m, rfl⟩ := Nat.exists_eq_succ_of_ne_zero (Nat.one_le_iff_ne_zero.mp hn)
  exact ⟨count^[m] q, Function.iterate_succ_apply' count m q⟩

theorem placeholders_nestedCount (n : Nat) (base : String) :
    placeholdersFrom false (nestedCount n base).toList = placeholdersFrom false base.toList := by
  induction n with
  | zero => simp [nestedCount]
  | succ n ih => rw [← countText_nestedCount, placeholders_countText, ih]

end Query

/-! ### Other pages of one statement -/

theorem PageBound.check_of_le {bound : PageBound} {value : Option Nat}
    (h : ∀ n ∈ value, n ≤ Word.greatestSigned) : bound.check value = .ok value := by
  cases value with
  | none => rfl
  | some n => exact if_pos (h n rfl)

/-- Another page of a request is the same statement with another page. -/
theorem Request.compile_repaged {r : Request} {timeColumn : String} {s : Statement}
    (compiled : r.compile timeColumn = .ok s) {limit offset : Option Nat}
    (hlimit : ∀ n ∈ limit, n ≤ Word.greatestSigned)
    (hoffset : ∀ n ∈ offset, n ≤ Word.greatestSigned) :
    ({ r with limit := limit, offset := offset } : Request).compile timeColumn =
      .ok { s with limit := limit, offset := offset } := by
  obtain ⟨_, hvalid, h⟩ := bind_eq_ok_iff.mp compiled
  obtain ⟨columns, hcolumns, h⟩ := bind_eq_ok_iff.mp (mapError_eq_ok_iff.mp h)
  obtain ⟨predicates, hpredicates, h⟩ := bind_eq_ok_iff.mp h
  obtain ⟨sorting, hsorting, h⟩ := bind_eq_ok_iff.mp h
  obtain ⟨_, _, h⟩ := bind_eq_ok_iff.mp h
  obtain ⟨_, _, h⟩ := bind_eq_ok_iff.mp h
  cases h
  refine bind_eq_ok_iff.mpr ⟨(), hvalid, mapError_eq_ok_iff.mpr ?_⟩
  refine bind_eq_ok_iff.mpr ⟨columns, hcolumns, ?_⟩
  refine bind_eq_ok_iff.mpr ⟨predicates, hpredicates, ?_⟩
  refine bind_eq_ok_iff.mpr ⟨sorting, hsorting, ?_⟩
  refine bind_eq_ok_iff.mpr ⟨limit, PageBound.check_of_le hlimit, ?_⟩
  exact bind_eq_ok_iff.mpr ⟨offset, PageBound.check_of_le hoffset, rfl⟩

/-- Another page of a request compiles to the same base with the same parameters and another page
behind it; counting either of the two some times over gives one unpaged text, in which the base
stands inside of as many counts, with the placeholders that the statement has. -/
theorem counts_of_repaged {r : Request} {timeColumn : String} {s : Statement}
    (compiled : r.compile timeColumn = .ok s) (limit offset : Option Nat)
    (hlimit : ∀ n ∈ limit, n ≤ Word.greatestSigned)
    (hoffset : ∀ n ∈ offset, n ≤ Word.greatestSigned) :
    ∃ t, ({ r with limit := limit, offset := offset } : Request).compile timeColumn = .ok t ∧
      t.query.base = s.query.base ∧ t.query.params = s.query.params ∧
      t.query.sql = s.query.base ++ (limit.elim "" fun n => " LIMIT " ++ toString n) ++
        (offset.elim "" fun n => " OFFSET " ++ toString n) ∧
      t.query.paged = limit.isSome ∧
      ∀ n, 1 ≤ n → ∀ q ∈ [s.query, t.query],
        (Query.count^[n] q).sql =
          String.join (List.replicate n "SELECT COUNT(*) FROM (") ++ s.query.base ++
            String.join (List.replicate n ") AS total") ∧
        (Query.count^[n] q).base = (Query.count^[n] q).sql ∧
        (Query.count^[n] q).params = s.query.params ∧
        (Query.count^[n] q).paged = false ∧
        (Query.count^[n] q).placeholders = s.query.placeholders := by
  refine ⟨_, Request.compile_repaged compiled hlimit hoffset, rfl, rfl, ?_, rfl, ?_⟩
  · cases limit <;> cases offset <;> simp [Statement.query, Query.sql, Query.base, Statement.sql,
      pageText, ← String.toList_inj] <;> rfl
  · intro n hn q hq
    have hbase : q.base = s.query.base ∧ q.params = s.query.params := by
      rcases List.mem_pair.mp hq with rfl | rfl
      · exact ⟨rfl, rfl⟩
      · exact ⟨rfl, rfl⟩
    obtain ⟨inner, hinner⟩ := Query.iterate_count_of_pos hn q
    have hsql : (Query.count^[n] q).sql = nestedCount n s.query.base := by
      rw [← hbase.1, ← Query.base_iterate_count, hinner, Query.sql_count]
    refine ⟨hsql, ?_, ?_, ?_, ?_⟩
    · rw [hinner, Query.sql_count]
    · rw [Query.params_iterate_count, hbase.2]
    · rw [hinner, Query.paged_count]
    · unfold Query.placeholders
      rw [hsql, Query.placeholders_nestedCount]
      exact s.placeholders_query.symm

/-- A table's name with an open quote and a question mark in it. -/
def Request.openQuote : Request where
  table := "it's ?"
  measures := [⟨"id", .count, none⟩]
  filters := [⟨.equals, "status", some (.single (.bare (.text "open")))⟩]
  limit := some 3

theorem counts_of_repaged_openQuote :
    ∃ s t, Request.openQuote.compile "day" = .ok s ∧
      ({ Request.openQuote with limit := none, offset := some 5 } : Request).compile "day" =
        .ok t ∧
      t.query.sql = s.query.base ++ " OFFSET 5" ∧
      (Query.count (.count t.query)).sql =
        "SELECT COUNT(*) FROM (SELECT COUNT(*) FROM (" ++ s.query.base ++ ") AS total) AS total" ∧
      (Query.count (.count t.query)).placeholders = s.query.placeholders ∧
      s.query.placeholders ≠ s.query.params.length := by
  have hcompiled : Request.openQuote.compile "day" = .ok _ := rfl
  obtain ⟨t, ht, _, _, hsql, _, hcounts⟩ := counts_of_repaged hcompiled none (some 5) (by simp)
    (by intro n hn; cases hn; decide)
  obtain ⟨hcount, _, _, _, hplaceholders⟩ := hcounts 2 (by decide) t.query (by simp)
  refine ⟨_, t, rfl, ht, hsql, ?_, hplaceholders, by decide +kernel⟩
  exact hcount

end Rollup
