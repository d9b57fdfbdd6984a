import Rollup.Store.Evaluate
import Rollup.Proofs.Statement.Compiled
/-!
Searching in texts. A filter that searches for a text puts it between percent signs and leaves it as
it is, so the text itself is read as a pattern. A row is kept if that pattern fits a part of its
text: any part, one at the beginning or one at the end. Exactly for the texts without percent signs
and underscores this is the text itself, up to the case of ASCII letters.
-/
namespace Rollup.Store

variable {ps qs cs ds : List Char}

/-! ### Patterns -/

/-- The characters that stand for others. -/
def isWildcard (c : Char) : Bool := c == '%' || c == '_'

theorem isWildcard_eq_false_iff {c : Char} : isWildcard c = false ↔ c ≠ '%' ∧ c ≠ '_' := by
  simp [isWildcard]

/-- A pattern fits a text: a percent sign fits any run of characters, an underscore any one, and
every other character itself in either case of ASCII letters. -/
inductive Fits : List Char → List Char → Prop
  | nil : Fits [] []
  | run {ps cs : List Char} (skipped : List Char) (h : Fits ps cs) :
    Fits ('%' :: ps) (skipped ++ cs)
  | one {ps cs : List Char} (c : Char) (h : Fits ps cs) : Fits ('_' :: ps) (c :: cs)
  | same {p c : Char} {ps cs : List Char} (hplain : isWildcard p = false)
    (hcase : p.toLower = c.toLower) (h : Fits ps cs) : Fits (p :: ps) (c :: cs)

theorem fits_nil_iff : Fits [] cs ↔ cs = [] := by
  constructor
  · intro h
    cases h
    rfl
  · rintro rfl
    exact .nil

theorem fits_run_iff :
    Fits ('%' :: ps) cs ↔ ∃ skipped rest, cs = skipped ++ rest ∧ Fits ps rest := by
  constructor
  · intro h
    cases h with
    | run skipped h => exact ⟨skipped, _, rfl, h⟩
    | same hplain => cases hplain
  · rintro ⟨skipped, rest, rfl, h⟩
    exact .run skipped h

theorem fits_one_iff : Fits ('_' :: ps) cs ↔ ∃ c rest, cs = c :: rest ∧ Fits ps rest := by
  constructor
  · intro h
    cases h with
    | one c h => exact ⟨c, _, rfl, h⟩
    | same hplain => cases hplain
  · rintro ⟨c, rest, rfl, h⟩
    exact .one c h

theorem fits_same_iff {p : Char} (hplain : isWildcard p = false) :
    Fits (p :: ps) cs ↔ ∃ c rest, cs = c :: rest ∧ p.toLower = c.toLower ∧ Fits ps rest := by
  constructor
  · intro h
    cases h with
    | run | one => cases hplain
    | same _ hcase h => exact ⟨_, _, rfl, hcase, h⟩
  · rintro ⟨c, rest, rfl, hcase, h⟩
    exact .same hplain hcase h

/-- The search for a fit, which tries the runs from the shortest on, finds one if there is any. -/
theorem like_iff_fits (ps cs : List Char) : like ps cs = true ↔ Fits ps cs := by
  fun_induction like ps cs with
  | case1 => simp [fits_nil_iff]
  | case2 c cs => simp [fits_nil_iff]
  | case3 ps ih => simp [fits_run_iff, ih]
  | case4 ps c cs ihhere ihlater =>
    rw [Bool.or_eq_true, ihhere, ihlater, fits_run_iff, fits_run_iff]
    constructor
    · rintro (h | ⟨skipped, rest, rfl, h⟩)
      · exact ⟨[], _, rfl, h⟩
      · exact ⟨c :: skipped, rest, rfl, h⟩
    · rintro ⟨skipped, rest, htext, h⟩
      cases skipped with
      | nil => exact .inl (htext ▸ h)
      | cons d skipped =>
        cases htext
        exact .inr ⟨skipped, rest, rfl, h⟩
  | case5 ps c cs ih => simp [fits_one_iff, ih]
  | case6 p ps hrun =>
    by_cases hone : p = '_'
    · subst hone
      simp [fits_one_iff]
    · simp [fits_same_iff (isWildcard_eq_false_iff.mpr ⟨hrun, hone⟩)]
  | case7 p ps c cs hrun hone ih =>
    simp [fits_same_iff (isWildcard_eq_false_iff.mpr ⟨hrun, hone⟩), ih]

/-- One pattern behind another fits what the two fit, one behind the other. -/
theorem fits_append_iff :
    Fits (ps ++ qs) cs ↔ ∃ as bs, cs = as ++ bs ∧ Fits ps as ∧ Fits qs bs := by
  constructor
  · intro h
    induction ps generalizing cs with
    | nil => exact ⟨[], cs, rfl, .nil, h⟩
    | cons p ps ih =>
      -- The first character of the whole pattern is that of its front, so the cases are its own.
      generalize hpattern : p :: ps ++ qs = pattern at h
      cases h with
      | nil => cases hpattern
      | run skipped h =>
        cases hpattern
        obtain ⟨as, bs, rfl, has, hbs⟩ := ih h
        exact ⟨skipped ++ as, bs, (List.append_assoc _ _ _).symm, .run skipped has, hbs⟩
      | one c h =>
        cases hpattern
        obtain ⟨as, bs, rfl, has, hbs⟩ := ih h
        exact ⟨c :: as, bs, rfl, .one c has, hbs⟩
      | same hplain hcase h =>
        cases hpattern
        obtain ⟨as, bs, rfl, has, hbs⟩ := ih h
        exact ⟨_ :: as, bs, rfl, .same hplain hcase has, hbs⟩
  · rintro ⟨as, bs, rfl, has, hbs⟩
    induction has with
    | nil => exact hbs
    | run skipped _ ih =>
      rw [List.append_assoc]
      exact .run skipped ih
    | one c _ ih => exact .one c ih
    | same hplain hcase _ ih => exact .same hplain hcase ih

/-- Without wildcards a pattern fits itself alone, up to the case of letters. -/
theorem fits_plain_iff (h : ∀ p ∈ ps, isWildcard p = false) :
    Fits ps cs ↔ cs.map Char.toLower = ps.map Char.toLower := by
  induction ps generalizing cs with
  | nil => simp [fits_nil_iff]
  | cons p ps ih =>
    rw [fits_same_iff (h p List.mem_cons_self)]
    cases cs with
    | nil => simp
    | cons c cs =>
      simp [ih fun q hq => h q (List.mem_cons_of_mem _ hq), eq_comm]

/-- A text with a letter in the place of each wildcard. -/
def filledIn (cs : List Char) : List Char := cs.map fun c => if isWildcard c then 'a' else c

theorem fits_filledIn (ps : List Char) : Fits ps (filledIn ps) := by
  induction ps with
  | nil => exact .nil
  | cons p ps ih =>
    by_cases hrun : p = '%'
    · subst hrun
      exact .run ['a'] ih
    by_cases hone : p = '_'
    · subst hone
      exact .one 'a' ih
    have hplain := isWildcard_eq_false_iff.mpr ⟨hrun, hone⟩
    simpa [filledIn, hplain] using Fits.same hplain rfl ih

/-- A wildcard is not the letter in its place, in no case of letters. -/
theorem not_isWildcard_of_filledIn (h : (filledIn ps).map Char.toLower = ps.map Char.toLower) :
    ∀ p ∈ ps, isWildcard p = false := by
  unfold filledIn at h
  rw [List.map_map, List.map_inj_left] at h
  intro p hp
  by_contra hwild
  have hletter := h p hp
  rw [Bool.not_eq_false] at hwild
  rw [Function.comp_apply, if_pos hwild] at hletter
  rcases Bool.or_eq_true_iff.mp hwild with hp | hp <;> cases beq_iff_eq.mp hp <;>
    exact absurd hletter (by decide)

/-! ### Parts -/

/-- Where the kinds that search in texts look for a part. -/
def IsPart : FilterKind → List Char → List Char → Prop
  | .contains, part, cs => part <:+: cs
  | .startsWith, part, cs => part <+: cs
  | .endsWith, part, cs => part <:+ cs
  | _, _, _ => False

/-- The kinds that search in texts. -/
def searchKinds : List FilterKind := [.contains, .startsWith, .endsWith]

section Parts

variable {kind : FilterKind}

theorem isPart_self (hkind : kind ∈ searchKinds) (cs : List Char) : IsPart kind cs cs := by
  simp only [searchKinds, List.mem_cons, List.not_mem_nil, or_false] at hkind
  rcases hkind with rfl | rfl | rfl
  · exact List.infix_rfl
  · exact List.prefix_rfl
  · exact List.suffix_rfl

theorem IsPart.eq_of_length {part : List Char} (h : IsPart kind part cs)
    (hlength : part.length = cs.length) : part = cs := by
  cases kind with
  | contains => exact List.IsInfix.eq_of_length h hlength
  | startsWith => exact List.IsPrefix.eq_of_length h hlength
  | endsWith => exact List.IsSuffix.eq_of_length h hlength
  | _ => cases h

/-- The pattern that a kind makes of a text. -/
def patternOf (kind : FilterKind) (s : String) : String :=
  match kind with
  | .contains => "%" ++ s ++ "%"
  | .startsWith => "" ++ s ++ "%"
  | .endsWith => "%" ++ s ++ ""
  | _ => s

theorem fits_run (cs : List Char) : Fits ['%'] cs := by
  simpa using Fits.run cs .nil

/-- The percent signs around a text leave out what is around a part. -/
theorem fits_patternOf_iff (hkind : kind ∈ searchKinds) (s : String) :
    Fits (patternOf kind s).toList cs ↔ ∃ part, IsPart kind part cs ∧ Fits s.toList part := by
  simp only [searchKinds, List.mem_cons, List.not_mem_nil, or_false] at hkind
  rcases hkind with rfl | rfl | rfl
  · have hpattern : (patternOf .contains s).toList = '%' :: (s.toList ++ ['%']) := by
      simp [patternOf]
    rw [hpattern, fits_run_iff]
    constructor
    · rintro ⟨front, rest, rfl, h⟩
      obtain ⟨part, back, rfl, hpart, -⟩ := fits_append_iff.mp h
      exact ⟨part, ⟨front, back, List.append_assoc _ _ _⟩, hpart⟩
    · rintro ⟨part, ⟨front, back, rfl⟩, hpart⟩
      exact ⟨front, part ++ back, List.append_assoc _ _ _,
        fits_append_iff.mpr ⟨part, back, rfl, hpart, fits_run back⟩⟩
  · have hpattern : (patternOf .startsWith s).toList = s.toList ++ ['%'] := by
      simp [patternOf]
    rw [hpattern, fits_append_iff]
    constructor
    · rintro ⟨part, back, rfl, hpart, -⟩
      exact ⟨part, ⟨back, rfl⟩, hpart⟩
    · rintro ⟨part, ⟨back, rfl⟩, hpart⟩
      exact ⟨part, back, rfl, hpart, fits_run back⟩
  · have hpattern : (patternOf .endsWith s).toList = '%' :: s.toList := by
      simp [patternOf]
    rw [hpattern, fits_run_iff]
    constructor
    · rintro ⟨front, part, rfl, hpart⟩
      exact ⟨part, ⟨front, rfl⟩, hpart⟩
    · rintro ⟨part, ⟨front, rfl⟩, hpart⟩
      exact ⟨front, part, rfl, hpart⟩

end Parts

/-! ### Filters -/

/-- Whether a row is kept whose column holds a text. -/
def Keeps (p : Predicate) (s : String) : Prop := ∀ affinity, truth affinity (.text s) p = some true

theorem keeps_like_iff (field pattern s : String) :
    Keeps (.like field (.text pattern)) s ↔ Fits pattern.toList s.toList := by
  rw [← like_iff_fits]
  constructor
  · intro h
    exact Option.some.inj (h .text)
  · intro h _
    exact congrArg some h

theorem predicate_of_search {f : Filter} {l : Literal} {s : String} (hkind : f.kind ∈ searchKinds)
    (hoperand : f.operand = some (.single l)) (hvalue : l.value = .text s) :
    f.predicate = .ok (.like f.field (.text (patternOf f.kind s))) := by
  have hsingle : f.singleOperand = .ok l := by
    unfold Filter.singleOperand Filter.requiredOperand
    rw [hoperand]
    rfl
  have hsearch (before after : String) :
      f.search before after = .ok (.like f.field (.text (before ++ s ++ after))) := by
    have hpattern : Param.pattern f.field l before after = .ok (.text (before ++ s ++ after)) := by
      unfold Param.pattern
      rw [hvalue]
      rfl
    unfold Filter.search
    rw [hsingle]
    change (Param.pattern f.field l before after >>= _) = _
    rw [hpattern]
    rfl
  simp only [searchKinds, List.mem_cons, List.not_mem_nil, or_false] at hkind
  unfold Filter.predicate
  rcases hkind with hkind | hkind | hkind
  · rw [hkind]
    exact hsearch _ _
  · rw [hkind]
    exact hsearch _ _
  · rw [hkind]
    exact hsearch _ _

/-- A filter that searches for a text keeps the rows that have a part in the right place which the
text, read as a pattern, fits. That is the text itself up to the case of ASCII letters, for all
rows, exactly if there is no wildcard in it. -/
theorem search_keeps {f : Filter} {l : Literal} {s : String} (hkind : f.kind ∈ searchKinds)
    (hoperand : f.operand = some (.single l)) (hvalue : l.value = .text s) :
    ∃ p, f.predicate = .ok p ∧
      (∀ x : String, Keeps p x ↔ ∃ part, IsPart f.kind part x.toList ∧ Fits s.toList part) ∧
      ((∀ x : String, Keeps p x ↔ ∃ part, IsPart f.kind part x.toList ∧
          part.map Char.toLower = s.toList.map Char.toLower) ↔
        ∀ c ∈ s.toList, c ≠ '%' ∧ c ≠ '_') := by
  have hkeeps (x : String) : Keeps (.like f.field (.text (patternOf f.kind s))) x ↔
      ∃ part, IsPart f.kind part x.toList ∧ Fits s.toList part := by
    rw [keeps_like_iff, fits_patternOf_iff hkind]
  refine ⟨_, predicate_of_search hkind hoperand hvalue, hkeeps, ?_⟩
  simp only [hkeeps]
  constructor
  · intro h
    -- The text itself, filled in, is kept; its only part of that length is the whole of it.
    obtain ⟨part, hpart, hcase⟩ := (h (String.ofList (filledIn s.toList))).mp
      ⟨_, isPart_self hkind _, by simpa using fits_filledIn s.toList⟩
    have hlength := congrArg List.length hcase
    rw [hpart.eq_of_length (by simpa [filledIn] using hlength), String.toList_ofList] at hcase
    exact fun c hc => isWildcard_eq_false_iff.mp (not_isWildcard_of_filledIn hcase c hc)
  · intro h x
    simp only [fits_plain_iff fun c hc => isWildcard_eq_false_iff.mpr (h c hc)]

/-- Names that contain the text `a_b`. -/
def underscored : Filter := ⟨.contains, "name", some (.single (.bare (.text "a_b")))⟩

/-- Any one character stands in the place of the underscore. -/
theorem search_keeps_underscored : ∃ p, underscored.predicate = .ok p ∧ Keeps p "Faxbes" ∧
    ¬∀ x : String, Keeps p x ↔ ∃ part, IsPart .contains part x.toList ∧
      part.map Char.toLower = "a_b".toList.map Char.toLower := by
  obtain ⟨p, hp, hkeeps, hplain⟩ :=
    search_keeps (f := underscored) (l := .bare (.text "a_b")) (by decide) rfl rfl
  refine ⟨p, hp, ?_, fun h => ?_⟩
  · refine (hkeeps "Faxbes").mpr ⟨"axb".toList, ⟨['F'], "es".toList, rfl⟩, ?_⟩
    exact .same rfl rfl (.one 'x' (.same rfl rfl .nil))
  · exact (hplain.mp h '_' (by decide)).2 rfl

/-- A name without the text is kept. -/
theorem search_keeps_uncontained : ∃ p, underscored.predicate = .ok p ∧ Keeps p "axb" ∧
    ¬∃ part, IsPart .contains part "axb".toList ∧
      part.map Char.toLower = "a_b".toList.map Char.toLower := by
  refine ⟨.like "name" (.text (patternOf .contains "a_b")), rfl, ?_, ?_⟩
  · rw [keeps_like_iff, fits_patternOf_iff (by decide)]
    exact ⟨"axb".toList, List.infix_rfl, .same rfl rfl (.one 'x' (.same rfl rfl .nil))⟩
  · rintro ⟨part, hpart, hcase⟩
    have hlength := congrArg List.length hcase
    rw [hpart.eq_of_length (by simpa using hlength)] at hcase
    exact absurd hcase (by decide)

end Rollup.Store
