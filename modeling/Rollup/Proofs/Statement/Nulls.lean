import Rollup.Http.Server
import Rollup.Proofs.Double.Numerals
import Rollup.Proofs.Store.TextSearch
/-!
Nulls among the parameters. A parameter is null only if its literal is. A text that stands for an
infinite number, or for none, is a parameter too: it is shown as null, and what is no number is
stored as null. No other parameter is shown or stored so.
-/
namespace Rollup

/-! ### Literals -/

/-- An integer of at most sixty-four bits or a finite double. -/
def Json.Number.WellFormed : Json.Number → Prop
  | .int i => Word.Fits i
  | .float x => Double.isFinite x = true

instance : DecidablePred Json.Number.WellFormed
  | .int i => inferInstanceAs (Decidable (Word.Fits i))
  | .float x => inferInstanceAs (Decidable (Double.isFinite x = true))

namespace Literal

def WellFormed (l : Literal) : Prop := ∀ n, l.value = .number n → n.WellFormed

/-- A text that is given as a number and stands for no finite one. -/
def NotFinite (l : Literal) : Prop :=
  ∃ s, l.tag = .number ∧ l.value = .text s ∧
    Double.NotFinite (Double.unsigned (Text.trim s).toList)

/-- A text that is given as a number and stands for none. -/
def NamesNaN (l : Literal) : Prop :=
  ∃ s, l.tag = .number ∧ l.value = .text s ∧
    Double.NamesNaN (Double.unsigned (Text.trim s).toList)

end Literal

namespace Param

variable {field : String} {l : Literal} {p : Param}

/-- What a value read as a number is. -/
inductive Numeric : Json → Param → Prop
  | integer (v : Json) (i : Int) (hfinite : ∀ s, v = .text s →
      ¬Double.NotFinite (Double.unsigned (Text.trim s).toList)) : Numeric v (.integer i)
  | exact {v : Json} {x : Float} (hvalue : ∀ s, v ≠ .text s)
      (hfinite : (∀ n, v = .number n → n.WellFormed) → Double.isFinite x = true) :
      Numeric v (.real x)
  | read {s : String} {x : Float} (h : Double.read? (Text.trim s) = some x) :
      Numeric (.text s) (.real x)

theorem numeric_of_numberOfJson? {v : Json} (h : numberOfJson? v = some p) : Numeric v p := by
  unfold numberOfJson? at h
  split at h
  next i =>
    split at h
    next hsigned =>
      cases h
      exact .integer _ i (by simp)
    next hsigned =>
      cases h
      exact .exact (by simp) fun hn => Double.isFinite_ofInt (hn _ rfl) hsigned
  next x =>
    cases h
    exact .exact (by simp) fun hn => hn _ rfl
  next s =>
    dsimp only at h
    rcases hinteger : integerOfText? (Text.trim s) with _ | i
    · have hread : (Double.read? (Text.trim s)).map real = some p := by
        simpa [hinteger] using h
      obtain ⟨x, hx, rfl⟩ := Option.map_eq_some_iff.mp hread
      exact .read hx
    · rw [hinteger] at h
      cases h
      obtain ⟨hread, hsigned⟩ := Option.filter_eq_some_iff.mp hinteger
      refine .integer _ i fun t ht => ?_
      cases ht
      exact Double.not_notFinite_of_readInteger? hread (by simpa using hsigned)
  next => cases h

namespace Numeric

variable {v : Json}

theorem ne_null (h : Numeric v p) : p ≠ .null := by
  cases h <;> simp

theorem not_finite_iff (h : Numeric v p) (hv : ∀ n, v = .number n → n.WellFormed) :
    (∃ x, p = .real x ∧ Double.isFinite x = false) ↔
      ∃ s, v = .text s ∧ Double.NotFinite (Double.unsigned (Text.trim s).toList) := by
  cases h with
  | integer v i hfinite => simpa using hfinite
  | exact hvalue hfinite => simp [hvalue, hfinite hv]
  | read h => simpa using Double.isFinite_read? h

theorem isNaN_iff (h : Numeric v p) (hv : ∀ n, v = .number n → n.WellFormed) :
    (∃ x, p = .real x ∧ x.isNaN = true) ↔
      ∃ s, v = .text s ∧ Double.NamesNaN (Double.unsigned (Text.trim s).toList) := by
  cases h with
  | integer v i hfinite => simpa using fun s hs hnone => hfinite s hs (.notANumber hnone)
  | exact hvalue hfinite =>
    refine iff_of_false ?_ fun ⟨s, hs, _⟩ => hvalue s hs
    rintro ⟨_, hx, hnan⟩
    cases hx
    rw [Double.not_isNaN_of_isFinite (hfinite hv)] at hnan
    cases hnan
  | read h => simpa using Double.isNaN_read? h

end Numeric

/-- Only what is read as a number becomes a real, and nothing that is read becomes null. -/
theorem not_real_of_ofTagged? {tag : Tag} {v : Json} (htag : tag ≠ .number)
    (h : ofTagged? tag v = some p) : p ≠ .null ∧ ∀ x, p ≠ .real x := by
  have hinstant (h : timestampOfJson? v = some p) : p ≠ .null ∧ ∀ x, p ≠ .real x := by
    unfold timestampOfJson? at h
    split at h
    · obtain ⟨t, _, rfl⟩ := Option.map_eq_some_iff.mp h
      simp
    · cases h
  cases tag with
  | number => exact absurd rfl htag
  | string =>
    obtain ⟨s, _, rfl⟩ := Option.map_eq_some_iff.mp h
    simp
  | integer =>
    change integerOfJson? v = some p at h
    unfold integerOfJson? at h
    split at h
    · split at h <;> cases h
      simp
    · obtain ⟨i, _, rfl⟩ := Option.map_eq_some_iff.mp h
      simp
    · cases h
  | boolean =>
    change booleanOfJson? v = some p at h
    unfold booleanOfJson? at h
    split at h
    · cases h
      simp
    · cases h
      simp
    · cases h
      simp
    · obtain ⟨b, _, rfl⟩ := Option.map_eq_some_iff.mp h
      simp
    · cases h
  | date => exact hinstant h
  | timestamp => exact hinstant h

/-- What a literal becomes. -/
inductive Made (l : Literal) : Param → Prop
  | null (hvalue : l.value = .null) : Made l .null
  | numeric {p : Param} (htag : l.tag = .number) (hvalue : l.value ≠ .null)
      (h : Numeric l.value p) : Made l p
  | other {p : Param} (htag : l.tag ≠ .number) (hvalue : l.value ≠ .null) (hnull : p ≠ .null)
      (hreal : ∀ x, p ≠ .real x) : Made l p

theorem made_of_ofLiteral (h : ofLiteral field l = .ok p) : Made l p := by
  by_cases hvalue : l.value = .null
  · unfold ofLiteral at h
    rw [hvalue] at h
    cases h
    exact .null hvalue
  · replace h : given field l.tag l.value = .ok p := h
    rw [given_eq field l.tag hvalue] at h
    split at h
    next q hq =>
      cases h
      by_cases htag : l.tag = .number
      · rw [htag] at hq
        exact .numeric htag hvalue (numeric_of_numberOfJson? hq)
      · obtain ⟨hnull, hreal⟩ := not_real_of_ofTagged? htag hq
        exact .other htag hvalue hnull hreal
    next => cases h

/-- Every text that stands for no finite number is read where it is given as a number. -/
theorem exists_of_notFinite (field : String) (h : l.NotFinite) :
    ∃ x, ofLiteral field l = .ok (.real x) := by
  obtain ⟨s, htag, hvalue, hs⟩ := h
  have hsome : (Double.read? (Text.trim s)).isSome :=
    Double.isSome_read? (Double.isSome_readUnsigned? hs)
  obtain ⟨x, hx⟩ := Option.isSome_iff_exists.mp hsome
  -- Integers are tried first, but those that are read are too small to overflow.
  have hinteger : integerOfText? (Text.trim s) = none := by
    rw [integerOfText?, Option.filter_eq_none_iff]
    intro i hi hsigned
    exact Double.not_notFinite_of_readInteger? hi (by simpa using hsigned) hs
  have hread : numberOfJson? (.text s) = some (.real x) := by
    unfold numberOfJson?
    simp only [hinteger, hx]
    rfl
  refine ⟨x, ?_⟩
  change given field l.tag l.value = _
  rw [hvalue, given_eq field l.tag (by simp), htag]
  have htagged : ofTagged? .number (.text s) = some (.real x) := hread
  rw [htagged]

namespace Made

theorem eq_null_iff (h : Made l p) : p = .null ↔ l.value = .null := by
  cases h with
  | null hvalue => exact iff_of_true rfl hvalue
  | numeric htag hvalue h => exact iff_of_false h.ne_null hvalue
  | other htag hvalue hnull hreal => exact iff_of_false hnull hvalue

/-- The reals that are not finite are made of the texts that stand for them. -/
theorem not_finite_iff (h : Made l p) (hl : l.WellFormed) :
    (∃ x, p = .real x ∧ Double.isFinite x = false) ↔ l.NotFinite := by
  cases h with
  | null hvalue => simp [Literal.NotFinite, hvalue]
  | numeric htag hvalue h => simpa [Literal.NotFinite, htag] using h.not_finite_iff hl
  | other htag hvalue hnull hreal => simp [Literal.NotFinite, htag, hreal]

theorem isNaN_iff (h : Made l p) (hl : l.WellFormed) :
    (∃ x, p = .real x ∧ x.isNaN = true) ↔ l.NamesNaN := by
  cases h with
  | null hvalue => simp [Literal.NamesNaN, hvalue]
  | numeric htag hvalue h => simpa [Literal.NamesNaN, htag] using h.isNaN_iff hl
  | other htag hvalue hnull hreal => simp [Literal.NamesNaN, htag, hreal]

end Made

/-! ### Nulls as they are shown and stored -/

theorem quote_ne_null (s : String) : Json.quote s ≠ "null" := by
  intro h
  have hhead := congrArg (fun t => t.toList.head?) h
  simp [Json.quote] at hhead

theorem print_eq_null_iff (n : Json.Number) :
    n.print = "null" ↔ ∃ x, n = .float x ∧ Double.isFinite x = false := by
  cases n with
  | int i =>
    refine iff_of_false (fun h => ?_) (by simp)
    have hn : 'n' ∈ i.repr.toList := by
      rw [show i.repr = "null" from h]
      decide
    rcases mem_numeral hn with h | h <;> cases h
  | float x =>
    change (if Double.isFinite x then Json.numberLayout.write x else "null") = "null" ↔ _
    by_cases hfinite : Double.isFinite x = true
    · rw [if_pos hfinite]
      refine iff_of_false (fun h => ?_) (by simp [hfinite])
      obtain ⟨c, hc, hdigit⟩ := Double.hasDigit_write Json.numberLayout x
      have hletters : "null".toList.all (fun d => !d.isDigit) = true := by decide
      rw [h] at hc
      simpa [hdigit] using List.all_eq_true.mp hletters c hc
    · rw [if_neg hfinite]
      exact iff_of_true rfl ⟨x, rfl, by simpa using hfinite⟩

theorem toJson_compact_eq_null_iff (p : Param) :
    p.toJson.compact = "null" ↔ p = .null ∨ ∃ x, p = .real x ∧ Double.isFinite x = false := by
  cases p with
  | null => exact iff_of_true rfl (.inl rfl)
  | bool b => cases b <;> simp [toJson, Json.compact]
  | integer i =>
    change (Json.Number.int i).print = "null" ↔ _
    simp [print_eq_null_iff]
  | real x =>
    change (Json.Number.float x).print = "null" ↔ _
    simp [print_eq_null_iff]
  | text s => exact iff_of_false (quote_ne_null s) (by simp)
  | timestamp t => exact iff_of_false (quote_ne_null t.text) (by simp)

theorem ofParam_eq_null_iff (p : Param) :
    Store.Cell.ofParam p = .null ↔ p = .null ∨ ∃ x, p = .real x ∧ x.isNaN = true := by
  cases p with
  | real x =>
    change (if x.isNaN then Store.Cell.null else .real x) = .null ↔ _
    split
    next hnan => exact iff_of_true rfl (.inr ⟨x, rfl, hnan⟩)
    next hnumber =>
      refine iff_of_false (by simp) ?_
      rintro (h | ⟨_, hx, hnan⟩)
      · cases h
      · cases hx
        exact hnumber hnan
  | null | bool | integer | text | timestamp => simp [Store.Cell.ofParam]

theorem compactItems_eq_map (items : List Json) :
    Json.compactItems items = items.map Json.compact := by
  induction items with
  | nil => rfl
  | cons v vs ih => rw [Json.compactItems, ih, List.map_cons]

theorem listToJson_compact (ps : List Param) : (listToJson ps).compact =
    "[" ++ ",".intercalate (ps.map fun p => p.toJson.compact) ++ "]" := by
  unfold listToJson
  rw [Json.compact, compactItems_eq_map, List.map_map]
  rfl

end Param

/-! ### Placeholders -/

namespace Filter

variable {f : Filter} {l : Literal} {p : Param}

theorem convert_of_search (hkind : f.kind ∈ Store.searchKinds) (h : f.convert l = .ok p) :
    l.value ≠ .null ∧ ∃ s, p = .text s := by
  have hpattern {before after : String} (h : Param.pattern f.field l before after = .ok p) :
      l.value ≠ .null ∧ ∃ s, p = .text s := by
    unfold Param.pattern at h
    split at h
    next s hs =>
      cases h
      refine ⟨fun hnull => ?_, _, rfl⟩
      rw [hnull] at hs
      cases hs
    next => cases h
  simp only [Store.searchKinds, List.mem_cons, List.not_mem_nil, or_false] at hkind
  unfold convert at h
  rcases hkind with hkind | hkind | hkind <;> rw [hkind] at h <;> exact hpattern h

theorem convert_of_compare (hkind : f.kind ∉ Store.searchKinds) :
    f.convert l = Param.ofLiteral f.field l := by
  simp only [Store.searchKinds, List.mem_cons, List.not_mem_nil, or_false, not_or] at hkind
  unfold convert
  split
  · exact absurd ‹_› hkind.1
  · exact absurd ‹_› hkind.2.1
  · exact absurd ‹_› hkind.2.2
  · rfl

/-- A parameter that is shown as null, and one that is stored as null. -/
theorem nulls_of_convert (hl : l.WellFormed) (h : f.convert l = .ok p) :
    (p.toJson.compact = "null" ↔
      l.value = .null ∨ f.kind ∉ Store.searchKinds ∧ l.NotFinite) ∧
    (Store.Cell.ofParam p = .null ↔
      l.value = .null ∨ f.kind ∉ Store.searchKinds ∧ l.NamesNaN) := by
  rw [Param.toJson_compact_eq_null_iff, Param.ofParam_eq_null_iff]
  by_cases hkind : f.kind ∈ Store.searchKinds
  · obtain ⟨hvalue, s, rfl⟩ := convert_of_search hkind h
    simp [hvalue, hkind]
  · rw [convert_of_compare hkind] at h
    have hmade := Param.made_of_ofLiteral h
    rw [hmade.eq_null_iff, hmade.not_finite_iff hl, hmade.isNaN_iff hl]
    simp [hkind]

end Filter

namespace Request

variable {r : Request} {timeColumn : String} {s : Statement}

/-- The literals of the filters, each with its filter, in their order. -/
def sources (r : Request) : List (Filter × Literal) :=
  r.filters.flatMap fun f => f.literals.map fun l => (f, l)

theorem forall₂_converted {fs : List Filter} {ps : List Predicate}
    (h : List.Forall₂ Filter.CarriedBy fs ps) :
    List.Forall₂ (fun source p => source.1.convert source.2 = .ok p)
      (fs.flatMap fun f => f.literals.map fun l => (f, l)) (ps.flatMap Predicate.params) := by
  induction h with
  | nil => exact .nil
  | cons hcarried _ ih =>
    rw [List.flatMap_cons, List.flatMap_cons]
    exact List.rel_append (List.forall₂_map_left_iff.mpr hcarried.params) ih

/-- The placeholders of a statement stand for the ends of the time range and behind them for the
literals, one by one. -/
theorem exists_converted (h : r.compile timeColumn = .ok s) :
    ∃ bounds converted, s.params = bounds ++ converted ∧
      (∀ p ∈ bounds, ∃ t, p = .timestamp t) ∧
      List.Forall₂ (fun source p => source.1.convert source.2 = .ok p) r.sources converted := by
  obtain ⟨ps, hps, hpredicates⟩ := (compiled_of_compile h).predicates
  refine ⟨(r.rangePredicate? timeColumn).toList.flatMap Predicate.params,
    ps.flatMap Predicate.params, ?_, ?_, forall₂_converted hps⟩
  · unfold Statement.params rangePredicate?
    rw [hpredicates, List.flatMap_append, r.timeField_getD]
  · unfold rangePredicate?
    cases r.range <;> simp [Predicate.params]

end Request

/-- A literal becomes null exactly if it is null, and a real that is not finite exactly if it is a
text given as a number that stands for no finite one. Those alone are shown as null among the
parameters of a statement, besides the nulls, and of them those alone that stand for no number are
stored as null. -/
theorem nulls_among_params (field : String) (l : Literal) (r : Request) (timeColumn : String) :
    (l.WellFormed →
      (l.NotFinite → ∃ p, Param.ofLiteral field l = .ok p) ∧
      ∀ p, Param.ofLiteral field l = .ok p → (p = .null ↔ l.value = .null) ∧
        ((∃ x, p = .real x ∧ Double.isFinite x = false) ↔ l.NotFinite)) ∧
    ∀ s, r.compile timeColumn = .ok s → (∀ source ∈ r.sources, source.2.WellFormed) →
      ((Http.statementJson s.query).member "params").compact =
        "[" ++ ",".intercalate (s.params.map fun p => p.toJson.compact) ++ "]" ∧
      ∃ bounds converted, s.params = bounds ++ converted ∧
        (∀ p ∈ bounds, p.toJson.compact ≠ "null" ∧ Store.Cell.ofParam p ≠ .null) ∧
        List.Forall₂ (fun source p =>
          (p.toJson.compact = "null" ↔ source.2.value = .null ∨
            source.1.kind ∉ Store.searchKinds ∧ source.2.NotFinite) ∧
          (Store.Cell.ofParam p = .null ↔ source.2.value = .null ∨
            source.1.kind ∉ Store.searchKinds ∧ source.2.NamesNaN)) r.sources converted := by
  constructor
  · intro hl
    constructor
    · intro hlarge
      obtain ⟨x, hx⟩ := Param.exists_of_notFinite field hlarge
      exact ⟨_, hx⟩
    · intro p h
      have hmade := Param.made_of_ofLiteral h
      exact ⟨hmade.eq_null_iff, hmade.not_finite_iff hl⟩
  · intro s hcompile hsources
    obtain ⟨bounds, converted, hparams, hbounds, hconverted⟩ := Request.exists_converted hcompile
    refine ⟨Param.listToJson_compact s.params, bounds, converted, hparams, ?_, ?_⟩
    · intro p hp
      obtain ⟨t, rfl⟩ := hbounds p hp
      exact ⟨Param.quote_ne_null t.text, by simp [Store.Cell.ofParam]⟩
    · refine ((List.forall₂_and_left _ _).mpr ⟨hsources, hconverted⟩).imp ?_
      rintro source p ⟨hl, hconvert⟩
      exact Filter.nulls_of_convert hl hconvert

/-- The orders whose total is null, too great for a double, or three. -/
def Request.ordersByTotal : Request where
  table := "orders"
  measures := [⟨"total", .sum, none⟩]
  filters := [⟨.isIn, "total", some (.list
    [.bare .null, .typed (.text "-1e400") (some .number), .bare (.number (.int 3))])⟩]

theorem nulls_among_params_ordersByTotal : ∃ s bounds p q t,
    Request.ordersByTotal.compile "day" = .ok s ∧ s.params = bounds ++ [p, q, t] ∧
    p.toJson.compact = "null" ∧ q.toJson.compact = "null" ∧ t.toJson.compact ≠ "null" ∧
    Store.Cell.ofParam p = .null ∧ Store.Cell.ofParam q ≠ .null := by
  have hok : (Request.ordersByTotal.compile "day").isOk = true := by decide +kernel
  obtain ⟨s, hcompile⟩ : ∃ s, Request.ordersByTotal.compile "day" = .ok s := by
    cases h : Request.ordersByTotal.compile "day" with
    | ok s => exact ⟨s, rfl⟩
    | error why =>
      rw [h] at hok
      cases hok
  have hsources : ∀ source ∈ Request.ordersByTotal.sources, source.2.WellFormed := by
    refine List.forall_mem_cons.mpr ⟨(fun n hn => by cases hn), ?_⟩
    refine List.forall_mem_cons.mpr ⟨(fun n hn => by cases hn), ?_⟩
    exact List.forall_mem_cons.mpr ⟨(fun n hn => by cases hn; decide), List.forall_mem_nil _⟩
  have hlarge : (Literal.typed (.text "-1e400") (some .number)).NotFinite :=
    ⟨"-1e400", rfl, rfl, .overflow (d := ⟨1, 400⟩) (by decide +kernel) (by decide +kernel)⟩
  have hnumber : ¬(Literal.typed (.text "-1e400") (some .number)).NamesNaN := by
    rintro ⟨s, _, hs, hname⟩
    cases hs
    revert hname
    unfold Double.NamesNaN
    decide +kernel
  have hthree : ¬(Literal.bare (.number (.int 3))).NotFinite := by
    rintro ⟨s, _, hs, _⟩
    cases hs
  obtain ⟨_, bounds, converted, hparams, _, hnulls⟩ :=
    (nulls_among_params "total" (.bare .null) Request.ordersByTotal "day").2 _ hcompile hsources
  obtain ⟨p, _, hp, hbehind, rfl⟩ := List.forall₂_cons_left_iff.mp hnulls
  obtain ⟨q, _, hq, hlast, rfl⟩ := List.forall₂_cons_left_iff.mp hbehind
  obtain ⟨t, _, ht, hnone, rfl⟩ := List.forall₂_cons_left_iff.mp hlast
  cases List.forall₂_nil_left_iff.mp hnone
  refine ⟨_, bounds, p, q, t, hcompile, hparams, hp.1.mpr (.inl rfl),
    hq.1.mpr (.inr ⟨by decide, hlarge⟩), fun h => ?_, hp.2.mpr (.inl rfl), fun h => ?_⟩
  · rcases ht.1.mp h with h | h
    · cases h
    · exact hthree h.2
  · rcases hq.2.mp h with h | h
    · cases h
    · exact hnumber h.2

/-- What is no number is shown and stored as null, although it is none. -/
theorem nan_among_params : ∃ p,
    Param.ofLiteral "total" (.typed (.text "nan") (some .number)) = .ok p ∧
      p.toJson.compact = "null" ∧ Store.Cell.ofParam p = .null ∧
      (∃ x, p = .real x ∧ Double.isFinite x = false) ∧ p ≠ .null := by
  refine ⟨.real (Float.ofBits 0x7FF8000000000000), by decide +kernel, by decide +kernel,
    by decide +kernel, ⟨_, rfl, by decide +kernel⟩, by simp⟩

end Rollup
