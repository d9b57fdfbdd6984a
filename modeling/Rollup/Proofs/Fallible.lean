import Mathlib.Data.List.Forall2
/-!
Computations that may fail: what an answer says about the steps that led to it, and which of
several faults a computation stops at.
-/
namespace Rollup.Fallible

variable {ε ε' α β : Type}

theorem bind_eq_ok_iff {x : Except ε α} {k : α → Except ε β} {b : β} :
    x >>= k = .ok b ↔ ∃ a, x = .ok a ∧ k a = .ok b := by
  cases x with
  | error e =>
    constructor
    · intro h; cases h
    · rintro ⟨a, h, _⟩; cases h
  | ok a =>
    constructor
    · intro h; exact ⟨a, rfl, h⟩
    · rintro ⟨a', h, hk⟩; cases h; exact hk

theorem mapError_eq_ok_iff {f : ε → ε'} {x : Except ε α} {a : α} :
    x.mapError f = .ok a ↔ x = .ok a := by
  cases x <;> simp [Except.mapError]

/-- A traversal has an answer exactly when each element has one, and answers these in order. -/
theorem mapM_eq_ok_iff {f : α → Except ε β} {as : List α} {bs : List β} :
    as.mapM f = .ok bs ↔ List.Forall₂ (fun a b => f a = .ok b) as bs := by
  induction as generalizing bs with
  | nil =>
    rw [List.mapM_nil, List.forall₂_nil_left_iff]
    exact ⟨fun h => by cases h; rfl, fun h => by subst h; rfl⟩
  | cons a as ih =>
    rw [List.mapM_cons, bind_eq_ok_iff, List.forall₂_cons_left_iff]
    constructor
    · rintro ⟨b, hb, h⟩
      obtain ⟨bs', hbs, h⟩ := bind_eq_ok_iff.mp h
      cases h
      exact ⟨b, bs', hb, ih.mp hbs, rfl⟩
    · rintro ⟨b, bs', hb, hbs, rfl⟩
      exact ⟨b, hb, bind_eq_ok_iff.mpr ⟨bs', ih.mpr hbs, rfl⟩⟩

theorem exists_mem_left_of_forall₂ {R : α → β → Prop} {as : List α} {bs : List β} {b : β}
    (h : List.Forall₂ R as bs) (hb : b ∈ bs) : ∃ a ∈ as, R a b := by
  induction h with
  | nil => cases hb
  | cons hab _ ih =>
    rcases List.mem_cons.mp hb with rfl | hb
    · exact ⟨_, List.mem_cons_self, hab⟩
    · obtain ⟨a, ha, hR⟩ := ih hb
      exact ⟨a, List.mem_cons_of_mem _ ha, hR⟩

theorem forall₂_imp_of_mem {R S : α → β → Prop} {as : List α} {bs : List β}
    (h : List.Forall₂ R as bs) (himp : ∀ b ∈ bs, ∀ a, R a b → S a b) : List.Forall₂ S as bs := by
  induction h with
  | nil => exact .nil
  | cons hab _ ih =>
    exact .cons (himp _ List.mem_cons_self _ hab)
      (ih fun b hb => himp b (List.mem_cons_of_mem _ hb))

/-- Lists related element by element have the same image if related elements do. -/
theorem map_eq_map_of_forall₂ {γ : Type} {R : α → β → Prop} {as : List α} {bs : List β}
    {f : β → γ} {g : α → γ} (h : List.Forall₂ R as bs) (hfg : ∀ a b, R a b → f b = g a) :
    bs.map f = as.map g := by
  induction h with
  | nil => rfl
  | cons hab _ ih => rw [List.map_cons, List.map_cons, hfg _ _ hab, ih]

/-- A traversal that a total function describes is the image under that function. -/
theorem eq_map_of_mapM {f : α → Except ε β} {g : α → β} {as : List α} {bs : List β}
    (h : as.mapM f = .ok bs) (hg : ∀ a b, f a = .ok b → b = g a) : bs = as.map g := by
  rw [← map_eq_map_of_forall₂ (mapM_eq_ok_iff.mp h) hg, List.map_id']

/-- A traversal looks at no more of the elements than its steps do. -/
theorem mapM_eq_of_map_eq {γ : Type} {f : α → γ} {g : α → Except ε β} (step : γ → Except ε β)
    (hg : ∀ a, g a = step (f a)) {as bs : List α} (h : as.map f = bs.map f) :
    as.mapM g = bs.mapM g := by
  rw [show g = step ∘ f from funext hg, ← List.mapM_map, ← List.mapM_map, h]

/-- The computation fails with the first of these faults, and answers if there are none. -/
inductive Reports (x : Except ε α) : List ε → Prop
  | answer {a : α} (h : x = .ok a) : Reports x []
  | fault {e : ε} {later : List ε} (h : x = .error e) : Reports x (e :: later)

/-- One fault, unless a condition holds. -/
def faultUnless (p : Prop) [Decidable p] (e : ε) : List ε := if p then [] else [e]

@[simp] theorem faultUnless_eq_nil_iff {p : Prop} [Decidable p] {e : ε} :
    faultUnless p e = [] ↔ p := by
  unfold faultUnless
  split <;> simp [*]

theorem faultUnless_of_not {p : Prop} [Decidable p] {e : ε} (h : ¬p) : faultUnless p e = [e] :=
  if_neg h

namespace Reports

variable {x : Except ε α} {faults : List ε}

theorem ok_iff (h : Reports x faults) : (∃ a, x = .ok a) ↔ faults = [] := by
  cases h with
  | answer h => exact ⟨fun _ => rfl, fun _ => ⟨_, h⟩⟩
  | fault h =>
    constructor
    · rintro ⟨a, ha⟩
      rw [h] at ha
      cases ha
    · intro he; cases he

theorem error_iff (h : Reports x faults) (e : ε) : x = .error e ↔ faults.head? = some e := by
  cases h with
  | answer h =>
    rw [h]
    constructor <;> intro he <;> cases he
  | fault h => rw [h, List.head?_cons, Except.error.injEq, Option.some.injEq]

theorem of_condition {p : Prop} [Decidable p] {e : ε} (hpos : p → ∃ a, x = .ok a)
    (hneg : ¬p → x = .error e) : Reports x (faultUnless p e) := by
  by_cases hp : p
  · obtain ⟨a, ha⟩ := hpos hp
    rw [faultUnless_eq_nil_iff.mpr hp]
    exact .answer ha
  · rw [faultUnless_of_not hp]
    exact .fault (hneg hp)

/-- The first step's faults come before those of the next. -/
theorem bind {k : α → Except ε β} {later : List ε} (h : Reports x faults)
    (hk : ∀ a, x = .ok a → Reports (k a) later) : Reports (x >>= k) (faults ++ later) := by
  cases h with
  | answer h =>
    subst h
    exact hk _ rfl
  | fault h =>
    subst h
    exact .fault rfl

/-- A step that cannot fail adds no fault. -/
theorem bind_ok {f : α → β} (h : Reports x faults) :
    Reports (x >>= fun a => .ok (f a)) faults := by
  simpa using h.bind (fun a _ => answer (rfl : Except.ok (f a) = .ok (f a)))

theorem mapM {f : α → Except ε β} {faultsOf : α → List ε} (as : List α)
    (h : ∀ a ∈ as, Reports (f a) (faultsOf a)) : Reports (as.mapM f) (as.flatMap faultsOf) := by
  induction as with
  | nil => exact .answer rfl
  | cons a as ih =>
    rw [List.mapM_cons, List.flatMap_cons]
    apply (h a (by simp)).bind
    intro b _
    exact (ih fun a' ha' => h a' (by simp [ha'])).bind_ok

theorem mapError {f : ε → ε'} (h : Reports x faults) :
    Reports (x.mapError f) (faults.map f) := by
  cases h with
  | answer h =>
    subst h
    exact .answer rfl
  | fault h =>
    subst h
    exact .fault rfl

end Reports

end Rollup.Fallible
