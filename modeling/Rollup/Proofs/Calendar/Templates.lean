import Mathlib.Algebra.Group.Nat.Even
import Rollup.Calendar.Template
/-!
Templates. A template is read from the left, piece by piece: a text in quotes, the first field whose
name stands there, or else a single character. What an instant is written as is fixed by that alone.

Behind a part that closes all of its quotes, a character of no name parts what is before it from
what is behind it, since no name reaches over such a character. A double quote is one of them, so a
quoted text parts a template too, whatever names are in it.
-/
namespace Rollup.Calendar

variable {c : Char} {cs rest : List Char} {p : Piece}

/-- A character that is in the name of no field. -/
def InNoName (c : Char) : Prop := ∀ q ∈ fieldNames, c ∉ q.1

instance (c : Char) : Decidable (InNoName c) := by unfold InNoName; infer_instance

theorem inNoName_quote : InNoName '"' := by decide

/-! ### How a template starts -/

/-- A template starts with a piece: a quoted text, a field with no earlier one whose name stands
there, or a character with which neither of these starts. -/
inductive Starts : List Char → Piece → List Char → Prop
  | quoted {inner rest : List Char} (hinner : '"' ∉ inner) :
      Starts ('"' :: (inner ++ '"' :: rest)) (.quoted inner) rest
  | field {before after : List (List Char × Field)} {name cs rest : List Char} {f : Field}
      (hnames : fieldNames = before ++ (name, f) :: after) (hfirst : ∀ q ∈ before, ¬q.1 <+: cs)
      (hcs : cs = name ++ rest) : Starts cs (.field f) rest
  | plain {c : Char} {rest : List Char} (hquote : c = '"' → '"' ∉ rest)
      (hnames : ∀ q ∈ fieldNames, ¬q.1 <+: c :: rest) : Starts (c :: rest) (.plain c) rest

theorem closingQuote?_append {inner : List Char} (h : '"' ∉ inner) (rest : List Char) :
    closingQuote? (inner ++ '"' :: rest) = some (inner, rest) := by
  induction inner with
  | nil => simp [closingQuote?]
  | cons c inner ih =>
    simp only [List.mem_cons, not_or] at h
    simp [closingQuote?, Ne.symm h.1, ih h.2]

theorem closingQuote?_eq_none (h : '"' ∉ cs) : closingQuote? cs = none := by
  induction cs with
  | nil => simp [closingQuote?]
  | cons c cs ih =>
    simp only [List.mem_cons, not_or] at h
    simp [closingQuote?, Ne.symm h.1, ih h.2]

theorem nameAt_eq_some_iff {name : List Char} {f g : Field} :
    (if name.isPrefixOf cs then some (g, cs.drop name.length) else none) = some (f, rest) ↔
      g = f ∧ cs = name ++ rest := by
  split
  next hname =>
    obtain ⟨rest', rfl⟩ := List.isPrefixOf_iff_prefix.mp hname
    simp
  next hname =>
    have hne : cs ≠ name ++ rest := by
      rintro rfl
      exact hname (List.isPrefixOf_iff_prefix.mpr (List.prefix_append name rest))
    simp [hne]

/-- The field is the first one whose name stands at the beginning. -/
theorem fieldAt?_eq_some_iff {f : Field} : fieldAt? cs = some (f, rest) ↔
    ∃ before name after, fieldNames = before ++ (name, f) :: after ∧
      (∀ q ∈ before, ¬q.1 <+: cs) ∧ cs = name ++ rest := by
  unfold fieldAt?
  rw [List.findSome?_eq_some_iff]
  constructor
  · rintro ⟨before, ⟨name, g⟩, after, hnames, hname, hfirst⟩
    obtain ⟨rfl, hcs⟩ := nameAt_eq_some_iff.mp hname
    refine ⟨before, name, after, hnames, fun q hq => ?_, hcs⟩
    simpa [List.isPrefixOf_iff_prefix] using hfirst q hq
  · rintro ⟨before, name, after, hnames, hfirst, hcs⟩
    refine ⟨before, (name, f), after, hnames, nameAt_eq_some_iff.mpr ⟨rfl, hcs⟩, fun q hq => ?_⟩
    simpa [List.isPrefixOf_iff_prefix] using hfirst q hq

theorem fieldAt?_eq_none_iff : fieldAt? cs = none ↔ ∀ q ∈ fieldNames, ¬q.1 <+: cs := by
  simp [fieldAt?, List.isPrefixOf_iff_prefix]

/-- A name ends before a character that is not in it. -/
theorem prefix_append_iff {name : List Char} (h : c ∉ name) (tail : List Char) :
    name <+: cs ++ c :: tail ↔ name <+: cs := by
  constructor
  · intro hname
    rcases List.prefix_or_prefix_of_prefix hname (List.prefix_append cs (c :: tail)) with hcs | hcs
    · exact hcs
    · obtain ⟨back, rfl⟩ := hcs
      rw [List.prefix_append_right_inj] at hname
      cases back with
      | nil => simp
      | cons d back =>
        obtain ⟨rfl, _⟩ := List.cons_prefix_cons.mp hname
        simp at h
  · exact fun hname => hname.trans (List.prefix_append cs _)

theorem not_prefix_of_inNoName (hc : InNoName c) (cs : List Char) :
    ∀ q ∈ fieldNames, ¬q.1 <+: c :: cs := by
  have hne : ∀ q ∈ fieldNames, q.1 ≠ [] := by decide
  intro q hq hprefix
  change q.1 <+: [] ++ c :: cs at hprefix
  rw [prefix_append_iff (hc q hq)] at hprefix
  exact hne q hq (List.prefix_nil.mp hprefix)

theorem firstPiece_of_starts (h : Starts (c :: cs) p rest) : firstPiece c cs = (p, rest) := by
  generalize htemplate : c :: cs = template at h
  cases h with
  | quoted hinner =>
    cases htemplate
    simp [firstPiece, closingQuote?_append hinner]
  | field hnames hfirst hcs =>
    subst htemplate
    have hfield := fieldAt?_eq_some_iff.mpr ⟨_, _, _, hnames, hfirst, hcs⟩
    have hc : c ≠ '"' := by
      rintro rfl
      rw [fieldAt?_eq_none_iff.mpr (not_prefix_of_inNoName inNoName_quote cs)] at hfield
      cases hfield
    simp [firstPiece, hc, hfield]
  | plain hquote hnames =>
    cases htemplate
    have hclosing : (if c = '"' then closingQuote? cs else none) = none := by
      split
      next hc => exact closingQuote?_eq_none (hquote hc)
      next => rfl
    simp [firstPiece, hclosing, fieldAt?_eq_none_iff.mpr hnames]

/-- A template that is not empty starts with some piece. -/
theorem exists_starts (c : Char) (cs : List Char) : ∃ p rest, Starts (c :: cs) p rest := by
  by_cases hquote : c = '"' ∧ '"' ∈ cs
  · obtain ⟨rfl, hmem⟩ := hquote
    obtain ⟨inner, rest, rfl, hinner⟩ := List.eq_append_cons_of_mem hmem
    exact ⟨_, _, .quoted hinner⟩
  · cases hfield : fieldAt? (c :: cs) with
    | some found =>
      obtain ⟨f, rest⟩ := found
      obtain ⟨_, _, _, hnames, hfirst, hcs⟩ := fieldAt?_eq_some_iff.mp hfield
      exact ⟨_, _, .field hnames hfirst hcs⟩
    | none =>
      exact ⟨_, _, .plain (fun hc hmem => hquote ⟨hc, hmem⟩) (fieldAt?_eq_none_iff.mp hfield)⟩

/-- The first piece is the one that the template starts with. -/
theorem starts_iff : Starts (c :: cs) p rest ↔ firstPiece c cs = (p, rest) := by
  refine ⟨firstPiece_of_starts, fun h => ?_⟩
  obtain ⟨p', rest', hstart⟩ := exists_starts c cs
  obtain ⟨rfl, rfl⟩ := Prod.mk.inj (h.symm.trans (firstPiece_of_starts hstart))
  exact hstart

theorem Starts.ne_nil (h : Starts cs p rest) : cs ≠ [] := by
  have hne : ∀ q ∈ fieldNames, q.1 ≠ [] := by decide
  cases h with
  | quoted => simp
  | field hnames _ hcs =>
    have hname := hne (_, _) (hnames ▸ List.mem_append_right _ List.mem_cons_self)
    simp [hcs, hname]
  | plain => simp

theorem pieces_of_starts (h : Starts cs p rest) : pieces cs = p :: pieces rest := by
  obtain ⟨c, cs, rfl⟩ := List.exists_cons_of_ne_nil h.ne_nil
  rw [pieces, starts_iff.mp h]

/-! ### What a template writes -/

/-- What an instant is written as: piece by piece, with nothing between the pieces. -/
inductive Written (t : Instant) : List Char → List Char → Prop
  | nil : Written t [] []
  | piece {cs rest out : List Char} {p : Piece} (hstart : Starts cs p rest)
      (hrest : Written t rest out) : Written t cs (p.text t ++ out)

variable {t : Instant} {out out' tail : List Char}

theorem written_iff : Written t cs out ↔ (pieces cs).flatMap (Piece.text t) = out := by
  constructor
  · intro h
    induction h with
    | nil => simp [pieces]
    | piece hstart _ ih => rw [pieces_of_starts hstart, List.flatMap_cons, ih]
  · rintro rfl
    fun_induction pieces cs with
    | case1 => exact .nil
    | case2 c cs ih => exact .piece (starts_iff.mpr rfl) ih

theorem format_eq_iff {template out : String} :
    t.format template = out ↔ Written t template.toList out.toList := by
  rw [written_iff, Instant.format, ← String.toList_inj, String.toList_ofList]

theorem written_format (t : Instant) (template : String) :
    Written t template.toList (t.format template).toList :=
  format_eq_iff.mp rfl

/-! ### Templates one after the other -/

/-- Where quotes are closed, the first piece does not change if a character of no name and anything
else follow, and behind the piece quotes are closed again. -/
theorem Starts.append (h : Starts cs p rest) (heven : Even (cs.count '"')) (hc : InNoName c)
    (tail : List Char) :
    Starts (cs ++ c :: tail) p (rest ++ c :: tail) ∧ Even (rest.count '"') := by
  cases h with
  | @quoted inner rest hinner =>
    constructor
    · rw [List.cons_append, List.append_assoc, List.cons_append]
      exact .quoted hinner
    · have hcount := List.count_eq_zero.mpr hinner
      simpa [hcount, Nat.even_add_one] using heven
  | @field before after name cs rest f hnames hfirst hcs =>
    subst hcs
    have hmem (q : List Char × Field) (hq : q ∈ before ++ [(name, f)]) : q ∈ fieldNames := by
      rw [hnames, List.append_cons]
      exact List.mem_append_left _ hq
    constructor
    · refine .field hnames (fun q hq => ?_) (List.append_assoc name rest _)
      rw [prefix_append_iff (hc q (hmem q (List.mem_append_left _ hq)))]
      exact hfirst q hq
    · have hquote := inNoName_quote (name, f) (hmem _ (by simp))
      simpa [List.count_eq_zero.mpr hquote] using heven
  | @plain d rest hquote hnames =>
    have hd : d ≠ '"' := by
      intro hd
      simp [hd, List.count_eq_zero.mpr (hquote hd)] at heven
    constructor
    · refine .plain (fun h => absurd h hd) fun q hq => ?_
      change ¬q.1 <+: d :: rest ++ c :: tail
      rw [prefix_append_iff (hc q hq)]
      exact hnames q hq
    · simpa [hd] using heven

theorem Written.append (h : Written t cs out) (heven : Even (cs.count '"')) (hc : InNoName c)
    (htail : Written t (c :: tail) out') : Written t (cs ++ c :: tail) (out ++ out') := by
  induction h with
  | nil => exact htail
  | piece hstart _ ih =>
    obtain ⟨hstart, heven⟩ := hstart.append heven hc tail
    rw [List.append_assoc]
    exact .piece hstart (ih heven)

theorem Written.plain (hquote : c ≠ '"') (hc : InNoName c) (h : Written t cs out) :
    Written t (c :: cs) (c :: out) :=
  .piece (.plain (fun h => absurd h hquote) (not_prefix_of_inNoName hc cs)) h

theorem Written.quoted {inner : List Char} (hinner : '"' ∉ inner) (h : Written t cs out) :
    Written t ('"' :: (inner ++ '"' :: cs)) (inner ++ out) :=
  .piece (.quoted hinner) h

/-- What is written behind closed quotes does not bear on what is written before: a character of no
name stands for itself between the two, a quoted text for what is in the quotes. And nothing else
is written than the pieces that a template starts with, one after the other. -/
theorem format_compositional (t : Instant) :
    (∀ (a b : String) (c : Char), Even (a.toList.count '"') → c ≠ '"' → InNoName c →
      t.format (a ++ String.singleton c ++ b) =
        t.format a ++ String.singleton c ++ t.format b) ∧
    (∀ a s b : String, Even (a.toList.count '"') → '"' ∉ s.toList →
      t.format (a ++ "\"" ++ s ++ "\"" ++ b) = t.format a ++ s ++ t.format b) ∧
    ∀ template out : String,
      t.format template = out ↔ Written t template.toList out.toList := by
  refine ⟨fun a b c heven hquote hc => ?_, fun a s b heven hs => ?_, fun _ _ => format_eq_iff⟩
  · have htail := (written_format t b).plain hquote hc
    have hwritten := (written_format t a).append heven hc htail
    simpa [format_eq_iff] using hwritten
  · have htail := (written_format t b).quoted hs
    have hwritten := (written_format t a).append heven inNoName_quote htail
    simpa [format_eq_iff] using hwritten

/-- The quarter of a leap day between quoted texts that hold names of fields, with a quote at the
end that is not closed. -/
theorem format_compositional_quarter :
    (Instant.mk 19782 50400 0).format "\"Year\" YYYY, MM" = "Year 2024, 02" ∧
    (Instant.mk 19782 50400 0).format "YYYY-\"Q\"Q \"" = "2024-Q1 \"" := by
  obtain ⟨hplain, hquoted, _⟩ := format_compositional ⟨19782, 50400, 0⟩
  have hyear : (Instant.mk 19782 50400 0).format "\"Year\" YYYY" = "Year 2024" := by decide +kernel
  have hmonth : (Instant.mk 19782 50400 0).format " MM" = " 02" := by decide +kernel
  have hdash : (Instant.mk 19782 50400 0).format "YYYY-" = "2024-" := by decide +kernel
  have hquarter : (Instant.mk 19782 50400 0).format "Q \"" = "1 \"" := by decide +kernel
  constructor
  · have h := hplain "\"Year\" YYYY" " MM" ',' (by decide) (by decide) (by decide)
    rw [hyear, hmonth] at h
    exact h
  · have h := hquoted "YYYY-" "Q" "Q \"" (by decide) (by decide)
    rw [hdash, hquarter] at h
    exact h

end Rollup.Calendar
