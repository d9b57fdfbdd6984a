import Rollup.Text.Scanner
/-!
Scanners and the texts they read. A scanner that reads a text leaves what follows it, provided that
nothing in what follows could belong to the text.
-/
namespace Rollup.Text.Scanner

variable {α β : Type}

/-! ### Scanners for choices, options and lists -/

/-- The first of some values whose text stands at the beginning. -/
def oneOf (text : α → String) : List α → Scanner α
  | [] => failure
  | a :: as => (do word (text a); return a) <|> oneOf text as

/-- What stands behind a heading, if the heading is there. -/
def behind? (heading : String) (p : Scanner α) : Scanner (Option α) :=
  (do word heading; return some (← p)) <|> return none

/-- One or more elements, parted by a separator. -/
def parted (separator : String) (p : Scanner α) : Scanner (List α) := fun cs =>
  match p cs with
  | none => none
  | some (a, rest) =>
    match word separator rest with
    | none => some ([a], rest)
    | some (_, next) =>
      if next.length < cs.length then
        (parted separator p next).map fun (as, rest) => (a :: as, rest)
      else none
  termination_by cs => cs.length

/-! ### Steps -/

theorem bind_of_eq {p : Scanner α} {k : α → Scanner β} {cs rest : List Char} {a : α}
    (h : p cs = some (a, rest)) : (p >>= k) cs = k a rest := by
  change (p cs).bind _ = _
  rw [h]
  rfl

theorem bind_of_none {p : Scanner α} {k : α → Scanner β} {cs : List Char} (h : p cs = none) :
    (p >>= k) cs = none := by
  change (p cs).bind _ = _
  rw [h]
  rfl

/-- A sequence that reads something reads it in two steps. -/
theorem exists_of_bind {p : Scanner α} {k : α → Scanner β} {cs rest : List Char} {b : β}
    (h : (p >>= k) cs = some (b, rest)) :
    ∃ a mid, p cs = some (a, mid) ∧ k a mid = some (b, rest) := by
  obtain ⟨⟨a, mid⟩, ha, hb⟩ := Option.bind_eq_some_iff.mp h
  exact ⟨a, mid, ha, hb⟩

theorem orElse_of_some {p q : Scanner α} {cs : List Char} {x : α × List Char}
    (h : p cs = some x) : (p <|> q) cs = some x := by
  change (p cs <|> q cs) = _
  rw [h]
  rfl

theorem orElse_of_none {p q : Scanner α} {cs : List Char} (h : p cs = none) :
    (p <|> q) cs = q cs := by
  change (p cs <|> q cs) = _
  rw [h]
  rfl

/-! ### Single characters -/

theorem eq_cons_of_charWhere {test : Char → Bool} {c : Char} {cs rest : List Char}
    (h : charWhere test cs = some (c, rest)) : cs = c :: rest ∧ test c = true := by
  unfold charWhere at h
  split at h
  · split at h
    next htest =>
      cases h
      exact ⟨rfl, htest⟩
    next => cases h
  · cases h

theorem eq_cons_of_char {c : Char} {cs rest : List Char} {u : Unit}
    (h : char c cs = some (u, rest)) : cs = c :: rest := by
  obtain ⟨d, mid, hd, h⟩ := exists_of_bind h
  cases h
  obtain ⟨rfl, hc⟩ := eq_cons_of_charWhere hd
  rw [beq_iff_eq.mp hc]

/-! ### What a scanner may answer -/

/-- Whatever a scanner reads satisfies a property. -/
def Answers (p : Scanner α) (P : α → Prop) : Prop := ∀ cs a rest, p cs = some (a, rest) → P a

namespace Answers

variable {p : Scanner α} {k : α → Scanner β} {P : α → Prop} {Q : β → Prop}

theorem bind (hp : Answers p P) (hk : ∀ a, P a → Answers (k a) Q) : Answers (p >>= k) Q := by
  intro cs b rest h
  obtain ⟨a, mid, ha, hb⟩ := exists_of_bind h
  exact hk a (hp cs a mid ha) mid b rest hb

/-- A step whose answer does not matter. -/
theorem skip (hk : ∀ a, Answers (k a) Q) : Answers (p >>= k) Q :=
  bind (P := fun _ => True) (fun _ _ _ _ => trivial) fun a _ => hk a

theorem pure {a : α} (h : P a) : Answers (Pure.pure a) P := by
  intro cs a' rest ha
  cases ha
  exact h

theorem failure : Answers failure P := by
  intro cs a rest h
  cases h

end Answers

/-! ### Words -/

theorem word_append (w : String) (rest : List Char) :
    word w (w.toList ++ rest) = some ((), rest) := by
  unfold word
  rw [if_pos (List.isPrefixOf_iff_prefix.mpr (List.prefix_append _ _)), List.drop_left]

theorem word_eq_none {w : String} {cs : List Char} (h : ¬w.toList <+: cs) :
    word w cs = none := by
  unfold word
  rw [if_neg (mt List.isPrefixOf_iff_prefix.mp h)]

/-- Neither of two texts starts with the other. -/
def Apart (s t : String) : Prop := ¬s.toList <+: t.toList ∧ ¬t.toList <+: s.toList

instance (s t : String) : Decidable (Apart s t) := by unfold Apart; infer_instance

theorem not_prefix_append {s t : String} (h : Apart s t) (rest : List Char) :
    ¬s.toList <+: t.toList ++ rest := by
  intro hs
  rcases List.prefix_or_prefix_of_prefix hs (List.prefix_append t.toList rest) with hst | hts
  · exact h.1 hst
  · exact h.2 hts

/-- A value is found by its text if no other value's text could be taken for it. -/
theorem oneOf_append {text : α → String} {as : List α} {a : α} (hmem : a ∈ as)
    (happart : as.Pairwise fun a b => Apart (text a) (text b)) (rest : List Char) :
    oneOf text as ((text a).toList ++ rest) = some (a, rest) := by
  induction as with
  | nil => cases hmem
  | cons b as ih =>
    obtain ⟨hhead, htail⟩ := List.pairwise_cons.mp happart
    rcases List.mem_cons.mp hmem with rfl | hmem
    · exact orElse_of_some (bind_of_eq (word_append (text a) rest))
    · have hb := word_eq_none (not_prefix_append (hhead a hmem) rest)
      exact (orElse_of_none (bind_of_none hb)).trans (ih hmem htail)

theorem oneOf_eq_none {text : α → String} {as : List α} {cs : List Char}
    (h : ∀ a ∈ as, ¬(text a).toList <+: cs) : oneOf text as cs = none := by
  induction as with
  | nil => rfl
  | cons a as ih =>
    have ha := word_eq_none (h a List.mem_cons_self)
    exact (orElse_of_none (bind_of_none ha)).trans (ih fun b hb => h b (List.mem_cons_of_mem _ hb))

theorem behind?_append {heading : String} {p : Scanner α} {cs rest : List Char} {a : α}
    (h : p cs = some (a, rest)) :
    behind? heading p (heading.toList ++ cs) = some (some a, rest) := by
  apply orElse_of_some
  rw [bind_of_eq (word_append heading cs), bind_of_eq h]
  rfl

theorem behind?_eq_none {heading : String} {p : Scanner α} {cs : List Char}
    (h : ¬heading.toList <+: cs) : behind? heading p cs = some (none, cs) :=
  orElse_of_none (bind_of_none (word_eq_none h))

/-- An element behind a heading; nothing if there is no element. -/
def optionText (heading : String) (text : α → String) : Option α → String
  | some a => heading ++ text a
  | none => ""

theorem behind?_optionText {heading : String} {p : Scanner α} {text : α → String} {x : Option α}
    {rest : List Char} (hp : ∀ a ∈ x, p ((text a).toList ++ rest) = some (a, rest))
    (hend : ¬heading.toList <+: rest) :
    behind? heading p ((optionText heading text x).toList ++ rest) = some (x, rest) := by
  cases x with
  | none => exact behind?_eq_none hend
  | some a =>
    rw [optionText, String.toList_append, List.append_assoc]
    exact behind?_append (hp a rfl)

/-! ### Runs and numbers -/

/-- What follows does not start with a character that satisfies the test. -/
def Stops (test : Char → Bool) (rest : List Char) : Prop := ∀ c ∈ rest.head?, test c = false

theorem stops_append {test : Char → Bool} {w : String}
    (h : w.toList.head?.map test = some false) (rest : List Char) :
    Stops test (w.toList ++ rest) := by
  obtain ⟨c, hc, htest⟩ := Option.map_eq_some_iff.mp h
  intro d hd
  rw [List.head?_append, hc] at hd
  cases hd
  exact htest

theorem dropWhile_of_stops {test : Char → Bool} {rest : List Char} (h : Stops test rest) :
    rest.dropWhile test = rest := by
  cases rest with
  | nil => rfl
  | cons c rest => simp [h c rfl]

theorem takeWhile_append_of_stops {test : Char → Bool} {cs rest : List Char}
    (hcs : ∀ c ∈ cs, test c = true) (hrest : Stops test rest) :
    (cs ++ rest).takeWhile test = cs ∧ (cs ++ rest).dropWhile test = rest := by
  rw [List.takeWhile_append_of_pos hcs, List.dropWhile_append_of_pos hcs, dropWhile_of_stops hrest]
  cases rest with
  | nil => simp
  | cons c rest => simp [hrest c rfl]

theorem run_append {test : Char → Bool} {cs rest : List Char} (hcs : ∀ c ∈ cs, test c = true)
    (hrest : Stops test rest) : run test (cs ++ rest) = some (cs, rest) := by
  obtain ⟨htake, hdrop⟩ := takeWhile_append_of_stops hcs hrest
  unfold run
  rw [htake, hdrop]

/-- What does not start with a digit ends a number. -/
theorem digits_run {limit : Option Nat} {ds rest : List Char} (hne : ds ≠ [])
    (hds : ∀ c ∈ ds, c.isDigit = true) (hlimit : ∀ w ∈ limit, ds.length ≤ w)
    (hrest : Stops Char.isDigit rest) :
    digits limit (ds ++ rest) = some (Double.ofDigits ds, rest) := by
  have htake := (takeWhile_append_of_stops hds hrest).1
  unfold digits
  rw [htake]
  cases limit with
  | none => simp only [List.isEmpty_iff, hne, if_false, List.drop_left]
  | some w =>
    simp only [List.take_of_length_le (hlimit w rfl), List.isEmpty_iff, hne, if_false,
      List.drop_left]

theorem isDigit_of_mem_toDigits {n : Nat} {c : Char} (h : c ∈ Nat.toDigits 10 n) :
    c.isDigit = true :=
  Nat.isDigit_of_mem_toDigits (by decide) (by decide) h

theorem ofDigits_toDigits (n : Nat) : Double.ofDigits (Nat.toDigits 10 n) = n :=
  Nat.ofDigitChars_ten_toDigits

theorem toList_repr_negSucc (n : Nat) :
    (Int.negSucc n).repr.toList = '-' :: Nat.toDigits 10 (n + 1) := by
  change ("-" ++ (n + 1).repr).toList = _
  rw [String.toList_append, Nat.toList_repr]
  rfl

theorem digits_append (n : Nat) {rest : List Char} (hrest : Stops Char.isDigit rest) :
    digits none ((toString n).toList ++ rest) = some (n, rest) := by
  rw [Nat.toString_eq_repr, Nat.toList_repr, digits_run Nat.toDigits_ne_nil
    (fun _ => isDigit_of_mem_toDigits) (by simp) hrest, ofDigits_toDigits]

theorem fixed_run {width : Nat} {ds : List Char} (hlength : ds.length = width)
    (hds : ∀ c ∈ ds, c.isDigit = true) (rest : List Char) :
    fixed width (ds ++ rest) = some (Double.ofDigits ds, rest) := by
  unfold fixed
  rw [List.take_left' hlength, List.drop_left' hlength]
  exact if_pos ⟨hlength, List.all_eq_true.mpr hds⟩

theorem exists_of_fixed {width n : Nat} {cs rest : List Char}
    (h : fixed width cs = some (n, rest)) : ∃ ds, cs = ds ++ rest ∧ ds.length = width ∧
      (∀ c ∈ ds, c.isDigit = true) ∧ Double.ofDigits ds = n := by
  unfold fixed at h
  dsimp only at h
  split at h
  next hdigits =>
    cases h
    exact ⟨cs.take width, (List.take_append_drop width cs).symm, hdigits.1,
      List.all_eq_true.mp hdigits.2, rfl⟩
  next => cases h

/-- A number stops every test that no digit passes. -/
theorem stops_of_digits {test : Char → Bool} {ds : List Char} (hne : ds ≠ [])
    (hds : ∀ c ∈ ds, c.isDigit = true) (htest : ∀ c, c.isDigit = true → test c = false)
    (rest : List Char) : Stops test (ds ++ rest) := by
  obtain ⟨d, ds, rfl⟩ := List.exists_cons_of_ne_nil hne
  intro c hc
  cases hc
  exact htest _ (hds _ List.mem_cons_self)

/-! ### Lists -/

theorem parted_of_none {separator : String} {p : Scanner α} {cs : List Char} (h : p cs = none) :
    parted separator p cs = none := by
  rw [parted, h]

/-- The texts of a list's elements are read back one by one, if each is read back before a
separator and before what follows the list. -/
theorem parted_append (follow : List Char → Prop) {p : Scanner α} {text : α → String}
    {separator : String} (hne : separator ≠ "")
    (hsep : ∀ rest, follow (separator.toList ++ rest)) {as : List α} (has : as ≠ [])
    (hp : ∀ a ∈ as, ∀ rest, follow rest → p ((text a).toList ++ rest) = some (a, rest))
    {rest : List Char} (hrest : follow rest) (hend : ¬separator.toList <+: rest) :
    parted separator p ((separator.intercalate (as.map text)).toList ++ rest) =
      some (as, rest) := by
  induction as with
  | nil => exact absurd rfl has
  | cons a as ih =>
    cases as with
    | nil =>
      rw [parted, List.map_singleton, String.intercalate_singleton, hp a (by simp) rest hrest]
      simp only [word_eq_none hend]
    | cons b bs =>
      have ih := ih (by simp) fun c hc => hp c (List.mem_cons_of_mem _ hc)
      -- The separator makes what is left shorter, which the recursion asks for.
      have hpos : 0 < separator.toList.length :=
        List.length_pos_iff.mpr (mt String.toList_eq_nil_iff.mp hne)
      rw [parted, List.map_cons, List.map_cons, String.intercalate_cons_cons,
        String.toList_append, String.toList_append, List.append_assoc, List.append_assoc,
        hp a (by simp) _ (hsep _)]
      simp only [word_append]
      rw [if_pos (by simp only [List.length_append]; omega), ← List.map_cons (f := text), ih]
      rfl

end Rollup.Text.Scanner
