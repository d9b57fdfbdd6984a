import Rollup.Proofs.Service.Answering
/-!
Interleavings. For a request with a limit a service calls an executor twice, and between its calls
others may change the database. The rows are then those of the state that the first call finds, the
total is the number of those in the state that the second one finds, and they fit together if what
was done in between makes no difference to one of them.
-/
namespace Rollup

open Fallible
open Store (ExecutionError Row Database)

/-! ### Work that pauses at its calls -/

/-- What an executor can be asked. -/
inductive Call where
  | rows (q : Query)
  | count (q : Query)
  | ping

def Call.Reply : Call → Type
  | rows _ => Except ExecutionError (List Row)
  | count _ => Except ExecutionError Int
  | ping => Except ExecutionError Unit

def Executor.reply {m : Type → Type} (db : Executor m) : (c : Call) → m c.Reply
  | .rows q => db.rows q
  | .count q => db.count q
  | .ping => db.ping

/-- Work that waits for the replies to its calls, one after the other. -/
inductive Work (α : Type) where
  | done (result : α)
  | call (c : Call) (next : c.Reply → Work α)

variable {α β σ : Type}

namespace Work

def bind : Work α → (α → Work β) → Work β
  | done a, k => k a
  | call c next, k => call c fun reply => (next reply).bind k

instance : Monad Work where
  pure := done
  bind := bind

/-- The executor that leaves all its calls open. -/
def executor : Executor Work where
  rows q := .call (.rows q) .done
  count q := .call (.count q) .done
  ping := .call .ping .done

/-- Work with nobody else at the database. -/
def alone (db : Executor (StateM σ)) : Work α → StateM σ α
  | done a => pure a
  | call c next => db.reply c >>= fun reply => (next reply).alone db

end Work

/-- Whose turn it is at a database: somebody runs a batch, which may change the state in any way, or
work makes its next call. -/
inductive Turn (σ : Type) where
  | batch (effect : σ → σ)
  | call

/-- Work in turns with the batches of others, from its first state to its last. A call finds the
state that the turns before it left, and nothing comes between a call and its reply. -/
inductive Work.Run (db : Executor (StateM σ)) : Work α → σ → List (Turn σ) → α → σ → Prop
  | done (a : α) (d : σ) : Run db (.done a) d [] a d
  | batch {w : Work α} {d d' : σ} {turns : List (Turn σ)} {a : α} (effect : σ → σ)
    (rest : Run db w (effect d) turns a d') : Run db w d (.batch effect :: turns) a d'
  | call {c : Call} {next : c.Reply → Work α} {d d' : σ} {turns : List (Turn σ)} {a : α}
    (rest : Run db (next ((db.reply c).run d).1) ((db.reply c).run d).2 turns a d') :
    Run db (.call c next) d (.call :: turns) a d'

namespace Work

variable {db : Executor (StateM σ)} {d d' : σ} {turns : List (Turn σ)} {w : Work α} {a b : α}

namespace Run

theorem alone_eq (h : Run db w d turns a d') (hcalls : ∀ turn ∈ turns, turn = .call) :
    (w.alone db).run d = (a, d') := by
  induction h with
  | done a d => rfl
  | batch effect rest ih => cases hcalls _ List.mem_cons_self
  | call rest ih => exact ih fun turn hturn => hcalls turn (List.mem_cons_of_mem _ hturn)

end Run

theorem alone_rows (db : Executor (StateM σ)) (q : Query) :
    (executor.rows q).alone db = db.rows q :=
  bind_pure (db.rows q)

theorem alone_count (db : Executor (StateM σ)) (q : Query) :
    (executor.count q).alone db = db.count q :=
  bind_pure (db.count q)

theorem alone_bind (w : Work α) (k : α → Work β) :
    (w >>= k).alone db = w.alone db >>= fun a => (k a).alone db := by
  induction w with
  | done a => rfl
  | call c next ih =>
    change (db.reply c >>= fun reply => (next reply >>= k).alone db) =
      (db.reply c >>= fun reply => (next reply).alone db) >>= fun a => (k a).alone db
    rw [bind_assoc]
    exact bind_congr ih

/-! ### The service's work -/

variable {r : Request} {s : Statement} {timeColumn : String}

theorem alone_fetch (db : Executor (StateM σ)) (q : Query) :
    (fetch executor q).alone db = fetch db q := by
  unfold fetch
  rw [alone_bind, alone_rows]
  refine bind_congr fun reply => ?_
  rcases reply with why | rows
  · rfl
  · by_cases hpaged : q.paged
    · simp only [hpaged, if_true]
      rw [alone_bind, alone_count]
      refine bind_congr fun reply => ?_
      rcases reply with why | n <;> rfl
    · simp only [hpaged]
      rfl

/-- With nobody else at the database, the work pauses in vain. -/
theorem alone_answer (r : Request) (timeColumn : String) (db : Executor (StateM σ)) :
    (r.answer executor timeColumn).alone db = r.answer db timeColumn := by
  unfold Request.answer
  cases r.compile timeColumn with
  | error why => rfl
  | ok s =>
    dsimp only
    rw [alone_bind, alone_fetch]
    refine bind_congr fun outcome => ?_
    rcases outcome with why | a <;> rfl

/-- Without batches, an interleaving is the service's own run. -/
theorem Run.answer_eq {outcome : Except ServiceError Answer}
    (h : Run db (r.answer executor timeColumn) d turns outcome d')
    (hcalls : ∀ turn ∈ turns, turn = .call) : (r.answer db timeColumn).run d = (outcome, d') := by
  rw [← alone_answer]
  exact h.alone_eq hcalls

end Work

/-! ### Answers and states -/

/-- An answer has the rows of one state, and the total that is counted in another. -/
structure Answer.ReadFrom (a : Answer) (fetched counted : Database) : Prop where
  rows : fetched.rows a.query = .ok a.rows
  total : ∃ n, counted.count (.count a.query) = .ok n ∧ a.total = n.toNat

/-- One state has the rows of an answer and its total. -/
def Answer.Describes (a : Answer) (d : Database) : Prop := a.ReadFrom d d

namespace Answer

variable {a : Answer} {s : Statement} {fetched counted d : Database}

/-- In one state, the rows are a page of those that are counted. -/
theorem Describes.length_le (h : a.Describes d) (query : a.query = s.query) :
    a.rows.length ≤ a.total := by
  have hrows := h.rows
  obtain ⟨n, hcount, htotal⟩ := h.total
  rw [query] at hrows hcount
  obtain ⟨all, hall, hn⟩ := Store.count_rows_eq_ok hcount
  rw [htotal, hn, Int.toNat_natCast, Store.statementRows_eq_page hrows hall]
  exact Statement.length_page_le all

end Answer

end Rollup
