import Rollup.Service.Answer
import Rollup.Proofs.Statement.Compiled
import Rollup.Proofs.Store.Pages
/-!
Answering. What a service asks of an executor, whatever it is answered: nothing for a rejected
request, else the rows, and then their number if there is a limit and the rows came. A page and
its total fit together if one state of a database answers both.
-/
namespace Rollup

open Store (ExecutionError Row)

/-! ### The record of an executor's calls -/

/-- A call to an executor and its answer. -/
inductive Exchange where
  | rows (q : Query) (answer : Except ExecutionError (List Row))
  | count (q : Query) (answer : Except ExecutionError Int)
  | ping (answer : Except ExecutionError Unit)

variable {σ : Type}

/-- An executor that writes down all exchanges, in their order. -/
def Executor.recorded (db : Executor (StateM σ)) : Executor (StateM (σ × List Exchange)) where
  rows q := fun (d, log) => ((db.rows q d).1, (db.rows q d).2, log ++ [.rows q (db.rows q d).1])
  count q := fun (d, log) =>
    ((db.count q d).1, (db.count q d).2, log ++ [.count q (db.count q d).1])
  ping := fun (d, log) => ((db.ping d).1, (db.ping d).2, log ++ [.ping (db.ping d).1])

/-- The exchanges over a request and the answer that they lead to. -/
inductive Served (r : Request) (timeColumn : String) :
    List Exchange → Except ServiceError Answer → Prop
  | rejected {why : Rejection} (rejected : r.compile timeColumn = .error why) :
    Served r timeColumn [] (.error (.rejected why))
  | rowsFailed {s : Statement} {why : ExecutionError} (compiled : r.compile timeColumn = .ok s) :
    Served r timeColumn [.rows s.query (.error why)] (.error (.failed why))
  | whole {s : Statement} {rows : List Row} (compiled : r.compile timeColumn = .ok s)
    (unlimited : r.limit = none) :
    Served r timeColumn [.rows s.query (.ok rows)] (.ok ⟨rows, rows.length, s.query⟩)
  | countFailed {s : Statement} {rows : List Row} {why : ExecutionError}
    (compiled : r.compile timeColumn = .ok s) (limited : r.limit.isSome) :
    Served r timeColumn [.rows s.query (.ok rows), .count (.count s.query) (.error why)]
      (.error (.failed why))
  | counted {s : Statement} {rows : List Row} {n : Int} (compiled : r.compile timeColumn = .ok s)
    (limited : r.limit.isSome) :
    Served r timeColumn [.rows s.query (.ok rows), .count (.count s.query) (.ok n)]
      (.ok ⟨rows, n.toNat, s.query⟩)

variable {r : Request} {timeColumn : String} {s : Statement} {db : Executor (StateM σ)} {d : σ}

-- The library's lemma for a bind of state leaves a bind of the identity behind.
theorem run_bind {α β : Type} (x : StateM σ α) (k : α → StateM σ β) (d : σ) :
    (x >>= k).run d = (k (x.run d).1).run (x.run d).2 := rfl

theorem run_answer_of_rejected {why : Rejection} (h : r.compile timeColumn = .error why) :
    (r.answer db timeColumn).run d = (.error (.rejected why), d) := by
  unfold Request.answer
  rw [h]
  rfl

/-- The run for a request that has a statement, call by call. -/
theorem run_answer_of_compiled (h : r.compile timeColumn = .ok s) :
    (r.answer db timeColumn).run d =
      match (db.rows s.query).run d with
      | (.error why, d₁) => (.error (.failed why), d₁)
      | (.ok rows, d₁) =>
        if s.query.paged then
          match (db.count (.count s.query)).run d₁ with
          | (.error why, d₂) => (.error (.failed why), d₂)
          | (.ok n, d₂) => (.ok ⟨rows, n.toNat, s.query⟩, d₂)
        else (.ok ⟨rows, rows.length, s.query⟩, d₁) := by
  unfold Request.answer fetch
  rw [h]
  simp only [run_bind]
  rcases (db.rows s.query).run d with ⟨answer | rows, d₁⟩
  · rfl
  · by_cases hpaged : s.query.paged
    · simp only [hpaged, if_true, run_bind]
      rcases (db.count (.count s.query)).run d₁ with ⟨answer | n, d₂⟩
      · rfl
      · rfl
    · simp only [hpaged]
      rfl

theorem run_rows_recorded (q : Query) (log : List Exchange) :
    (db.recorded.rows q).run (d, log) = (((db.rows q).run d).1, ((db.rows q).run d).2,
      log ++ [.rows q ((db.rows q).run d).1]) := rfl

theorem run_count_recorded (q : Query) (log : List Exchange) :
    (db.recorded.count q).run (d, log) = (((db.count q).run d).1, ((db.count q).run d).2,
      log ++ [.count q ((db.count q).run d).1]) := rfl

theorem Statement.paged_query (h : r.compile timeColumn = .ok s) :
    s.query.paged = r.limit.isSome := by
  change s.limit.isSome = r.limit.isSome
  rw [(Request.compiled_of_compile h).limit]

/-- A service serves every request, and writing down the exchanges changes nothing. -/
theorem served_of_answer (r : Request) (timeColumn : String) (db : Executor (StateM σ)) (d : σ) :
    ∃ outcome d' log, (r.answer db.recorded timeColumn).run (d, []) = (outcome, d', log) ∧
      (r.answer db timeColumn).run d = (outcome, d') ∧ Served r timeColumn log outcome := by
  cases hcompile : r.compile timeColumn with
  | error why =>
    exact ⟨_, _, _, run_answer_of_rejected hcompile, run_answer_of_rejected hcompile,
      .rejected hcompile⟩
  | ok s =>
    rw [run_answer_of_compiled hcompile, run_answer_of_compiled hcompile, run_rows_recorded,
      Statement.paged_query hcompile]
    rcases (db.rows s.query).run d with ⟨why | rows, d₁⟩
    · exact ⟨_, _, _, rfl, rfl, .rowsFailed hcompile⟩
    · cases hlimit : r.limit with
      | none => exact ⟨_, _, _, rfl, rfl, .whole hcompile hlimit⟩
      | some limit =>
        simp only [Option.isSome_some, if_true, run_count_recorded]
        have hlimited : r.limit.isSome := by rw [hlimit]; rfl
        rcases (db.count (.count s.query)).run d₁ with ⟨why | n, d₂⟩
        · exact ⟨_, _, _, rfl, rfl, .countFailed hcompile hlimited⟩
        · exact ⟨_, _, _, rfl, rfl, .counted hcompile hlimited⟩

/-! ### Pages of one result -/

theorem Executor.OneState.length_rows (h : db.OneState s d)
    (hcompile : r.compile timeColumn = .ok s) {a : Answer}
    (ha : ((r.answer db timeColumn).run d).1 = .ok a) {limit : Nat}
    (hlimit : r.limit = some limit) : a.rows.length = min limit (a.total - r.offset.getD 0) := by
  have hcompiled := Request.compiled_of_compile hcompile
  have hpage := h.page
  have hsize := h.size
  rw [run_answer_of_compiled hcompile, Statement.paged_query hcompile, hlimit] at ha
  simp only [Option.isSome_some, if_true] at ha
  generalize (db.rows s.query).run d = fetched at ha hpage hsize
  obtain ⟨why | rows, d₁⟩ := fetched
  · cases ha
  · simp only at ha hsize
    generalize (db.count (.count s.query)).run d₁ = counted at ha hsize
    obtain ⟨why | n, d₂⟩ := counted
    · cases ha
    · obtain ⟨all, hall, hn⟩ := hsize n rfl
      cases ha
      rw [hpage rows all rfl hall, hn, Int.toNat_natCast,
        Statement.length_page (hcompiled.limit.trans hlimit), hcompiled.offset]

/-- A rejected request reaches no executor. Any other has its rows fetched once, and counted once
behind that exactly if it has a limit and the rows came; the first error is the answer, and rows
are answered as they came. If one state of a database answers, a page has as many rows as its limit
and its offset leave of the total. -/
theorem answer_served (r : Request) (timeColumn : String) (db : Executor (StateM σ)) (d : σ) :
    ∃ outcome d' log, (r.answer db.recorded timeColumn).run (d, []) = (outcome, d', log) ∧
      (r.answer db timeColumn).run d = (outcome, d') ∧ Served r timeColumn log outcome ∧
      ∀ s, r.compile timeColumn = .ok s → db.OneState s d →
        ∀ a, outcome = .ok a → ∀ limit, r.limit = some limit →
          a.rows.length = min limit (a.total - r.offset.getD 0) := by
  obtain ⟨outcome, d', log, hrecorded, hrun, hserved⟩ := served_of_answer r timeColumn db d
  refine ⟨outcome, d', log, hrecorded, hrun, hserved, ?_⟩
  intro s hcompile hstate a ha limit hlimit
  exact hstate.length_rows hcompile (by rw [hrun, ha]) hlimit

/-- Four visits of three pages. -/
def visits : Store.Database where
  tables := [{
    name := "visits"
    columns := [⟨"page", .text⟩, ⟨"ms", .integer⟩]
    rows := [[.text "/", .integer 120], [.text "/about", .integer 200], [.text "/", .integer 80],
      [.text "/pricing", .integer 90]] }]

/-- The second page of one row each. -/
def Request.visitsByPage : Request where
  table := "visits"
  measures := [⟨"ms", .max, some "slowest"⟩]
  dimensions := [{ field := "page" }]
  limit := some 1
  offset := some 1

theorem answer_served_visits : ∃ a : Answer,
    ((Request.visitsByPage.answer Store.executor "day").run visits).1 = .ok a ∧
    a.rows = [[("page", .text "/about"), ("slowest", .number (.int 200))]] ∧ a.total = 3 ∧
    a.rows.length = min 1 (a.total - 1) := by
  obtain ⟨outcome, d', log, _, hrun, _, hpage⟩ :=
    answer_served Request.visitsByPage "day" Store.executor visits
  have hcompile : Request.visitsByPage.compile "day" = .ok _ := rfl
  have hanswer : ((Request.visitsByPage.answer Store.executor "day").run visits).1 = .ok _ := rfl
  refine ⟨_, hanswer, by decide +kernel, by decide +kernel, ?_⟩
  rw [hrun] at hanswer
  exact hpage _ hcompile (Store.executor_oneState _ _) _ hanswer 1 rfl

end Rollup
