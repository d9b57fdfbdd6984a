import Rollup.Service.Executor
import Rollup.Proofs.Fallible
/-!
Pages. An executor answers from one state of a database if the rows of a statement are a page of the
rows that it has there without limit and offset, and its count is the number of those. A database
is such an executor, although it evaluates no more groups than a page needs.
-/
namespace Rollup

open Fallible
open Store (Row)

variable {σ : Type} {s : Statement}

/-- The rows of a whole result that a statement's limit and offset leave. -/
def Statement.page (s : Statement) (rows : List Row) : List Row :=
  let behind := rows.drop (s.offset.getD 0)
  match s.limit with
  | some n => behind.take n
  | none => behind

theorem Statement.length_page {limit : Nat} (h : s.limit = some limit) (rows : List Row) :
    (s.page rows).length = min limit (rows.length - s.offset.getD 0) := by
  unfold page
  rw [h]
  simp only [List.length_take, List.length_drop]

theorem Statement.length_page_le (rows : List Row) : (s.page rows).length ≤ rows.length := by
  cases hlimit : s.limit with
  | none =>
    unfold page
    rw [hlimit]
    exact (List.drop_sublist _ rows).length_le
  | some limit =>
    rw [length_page hlimit]
    omega

/-- One state of a database answers both calls for a statement: the rows are the page of the whole
result in that state, and the number is that of the whole result. -/
structure Executor.OneState (db : Executor (StateM σ)) (s : Statement) (d : σ) : Prop where
  page : ∀ rows all, ((db.rows s.query).run d).1 = .ok rows →
    ((db.rows s.unpaged.query).run d).1 = .ok all → rows = s.page all
  size : ∀ n, ((db.count (.count s.query)).run ((db.rows s.query).run d).2).1 = .ok n →
    ∃ all, ((db.rows s.unpaged.query).run d).1 = .ok all ∧ n = all.length

namespace Store

variable {db : Database} {p : Plan}

/-- Evaluating no more groups than needed makes no difference to the rows that are needed. -/
theorem Plan.take_resultRows {needed : Nat} {part all : List Row}
    (hpart : p.resultRows (some needed) = .ok part) (hall : p.resultRows none = .ok all) :
    part.take needed = all.take needed := by
  obtain ⟨groups, hgroups, hpart⟩ := bind_eq_ok_iff.mp hpart
  obtain ⟨groups', hgroups', hall⟩ := bind_eq_ok_iff.mp hall
  cases hgroups.symm.trans hgroups'
  split at hpart
  next hsorting =>
    rw [if_pos hsorting] at hall
    have htake := List.forall₂_take needed (mapM_eq_ok_iff.mp hall)
    have heq : part = all.take needed :=
      Except.ok.inj (hpart.symm.trans (mapM_eq_ok_iff.mpr htake))
    rw [heq, List.take_take, Nat.min_self]
  next hsorting =>
    rw [if_neg hsorting] at hall
    cases hpart.symm.trans hall
    rfl

theorem statementRows_unpaged (db : Database) (s : Statement) :
    statementRows db s.unpaged = allRows db s := by
  change (plan db s >>= fun p => p.resultRows none >>= fun rows => .ok (rows.drop 0)) =
    (plan db s >>= fun p => p.resultRows none)
  cases plan db s with
  | error why => rfl
  | ok p => exact bind_pure (p.resultRows none)

theorem statementRows_eq_page {rows all : List Row} (hrows : statementRows db s = .ok rows)
    (hall : allRows db s = .ok all) : rows = s.page all := by
  obtain ⟨p, hplan, hrows⟩ := bind_eq_ok_iff.mp hrows
  obtain ⟨p', hplan', hall⟩ := bind_eq_ok_iff.mp hall
  cases hplan.symm.trans hplan'
  unfold Statement.page
  cases hlimit : s.limit with
  | none =>
    simp only [hlimit] at hrows
    obtain ⟨all', hall', hrows⟩ := bind_eq_ok_iff.mp hrows
    cases hall.symm.trans hall'
    cases hrows
    rfl
  | some n =>
    simp only [hlimit] at hrows
    cases n with
    | zero =>
      cases hrows
      rfl
    | succ n =>
      obtain ⟨part, hpart, hrows⟩ := bind_eq_ok_iff.mp hrows
      cases hrows
      have htake := Plan.take_resultRows hpart hall
      simp only [List.take_drop, htake]

theorem count_rows_eq_ok {n : Int} (h : db.count (.count s.query) = .ok n) :
    ∃ all, allRows db s = .ok all ∧ n = all.length := by
  obtain ⟨k, hk, h⟩ := bind_eq_ok_iff.mp h
  obtain ⟨all, hall, hk⟩ := bind_eq_ok_iff.mp hk
  cases h
  cases hk
  exact ⟨all, hall, rfl⟩

/-- A database answers both calls for a statement from the state that it is in. -/
theorem executor_oneState (s : Statement) (db : Database) : executor.OneState s db where
  page rows all hrows hall := by
    have hrows : statementRows db s = .ok rows := mapError_eq_ok_iff.mp hrows
    have hall : statementRows db s.unpaged = .ok all := mapError_eq_ok_iff.mp hall
    rw [statementRows_unpaged] at hall
    exact statementRows_eq_page hrows hall
  size n hn := by
    have hn : db.count (.count s.query) = .ok n := mapError_eq_ok_iff.mp hn
    obtain ⟨all, hall, hlength⟩ := count_rows_eq_ok hn
    rw [← statementRows_unpaged] at hall
    exact ⟨all, mapError_eq_ok_iff.mpr hall, hlength⟩

end Store

end Rollup
