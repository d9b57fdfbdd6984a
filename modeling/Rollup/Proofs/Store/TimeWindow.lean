import Rollup.Store.Evaluate
import Rollup.Proofs.Request.Readback
import Rollup.Proofs.Statement.Compiled
import Rollup.Proofs.Store.ByteOrder
/-!
Windows of time. The bounds of a window are bound as texts without fractions, and rows are compared
with these texts. So a row of a whole second is kept if it lies between the second of the first
bound and the last bound: a fraction of the first bound does not keep out the second it belongs to.
-/
namespace Rollup.Store

open Calendar (Instant)
open Text.Scanner (Stops)

/-! ### Texts of instants are no numbers -/

/-- A run of digits is the whole numeral if neither a point nor an exponent follows it. -/
theorem exists_scanNumeral {ds rest : List Char} {c : Char} (hne : ds ≠ [])
    (hds : ∀ d ∈ ds, d.isDigit = true) (hdigit : c.isDigit = false) (hpoint : c ≠ '.')
    (hexponent : ¬(c = 'e' ∨ c = 'E')) :
    ∃ n, scanNumeral (ds ++ c :: rest) = some (n, c :: rest) := by
  obtain ⟨htake, hdrop⟩ := Text.Scanner.takeWhile_append_of_stops hds
    (show Stops Char.isDigit (c :: rest) by simpa [Stops] using hdigit)
  -- A text that starts with a digit has no sign.
  have hsign : ∀ d ∈ (ds ++ c :: rest).head?, d.isDigit = true := by
    obtain ⟨d, ds, rfl⟩ := List.exists_cons_of_ne_nil hne
    simpa using hds d
  generalize ds ++ c :: rest = cs at *
  have hunsigned : (∀ r, cs ≠ '-' :: r) ∧ ∀ r, cs ≠ '+' :: r := by
    constructor
    · rintro r rfl
      cases hsign _ rfl
    · rintro r rfl
      cases hsign _ rfl
  unfold scanNumeral
  split
  next sign unsigned hsplit =>
    obtain rfl : cs = unsigned := by
      split at hsplit
      · cases hunsigned.1 _ rfl
      · cases hunsigned.2 _ rfl
      · cases hsplit
        rfl
    simp only [htake, hdrop]
    split
    next r hr =>
      cases hr
      exact absurd rfl hpoint
    next =>
      simp only [hne, false_and, if_false, hexponent]
      split
      · exact ⟨_, rfl⟩
      · exact ⟨_, rfl⟩

theorem isAsciiBlank_of_isDigit {c : Char} (h : c.isDigit = true) : isAsciiBlank c = false := by
  have hlow := (Double.toNat_of_isDigit h).1
  have hblank : c ≠ ' ' := by
    rintro rfl
    exact absurd hlow (by decide)
  simp only [isAsciiBlank, hblank, decide_false, Bool.false_or, Bool.and_eq_false_iff,
    decide_eq_false_iff_not]
  omega

theorem numberOfText?_text {t : Instant} (ht : t.FourDigits) : numberOfText? t.text = none := by
  have hstart := Calendar.stops_padded (fun _ => isAsciiBlank_of_isDigit) 4 t.date.year.natAbs
  unfold numberOfText?
  rw [Instant.toList_text, ht.dateText_append, Text.Scanner.dropWhile_of_stops (hstart _)]
  obtain ⟨n, hn⟩ := exists_scanNumeral (c := '-') (Calendar.padded_ne_nil 4 t.date.year.natAbs)
    (fun _ => Calendar.isDigit_of_mem_padded) rfl (by decide) (by decide)
  rw [hn]
  rfl

theorem adapt_text {t : Instant} (ht : t.FourDigits) (affinity : Affinity) :
    affinity.adapt (.text t.text) = .text t.text := by
  cases affinity with
  | text | none => rfl
  | numeric | integer | real =>
    unfold Affinity.adapt Cell.toNumber
    simp only [numberOfText?_text ht, Option.getD_none]

/-! ### Windows -/

/-- A text is neither before the first nor behind the last of two others, byte by byte. -/
def BytesBetween (low high s : String) : Prop :=
  Cell.compareBytes (bytesOf s) (bytesOf low) ≠ .lt ∧
    Cell.compareBytes (bytesOf s) (bytesOf high) ≠ .gt

instance (low high s : String) : Decidable (BytesBetween low high s) :=
  inferInstanceAs (Decidable (_ ∧ _))

theorem Truth.and_some (a b : Bool) : Truth.and (some a) (some b) = some (a && b) := by
  cases a <;> cases b <;> rfl

theorem truth_between {first last : Instant} (hfirst : first.FourDigits) (hlast : last.FourDigits)
    (affinity : Affinity) (field s : String) :
    truth affinity (.text s) (.between field (.timestamp first) (.timestamp last)) =
      some (decide (BytesBetween first.text last.text s)) := by
  have hlow : affinity.adapt (.ofParam (.timestamp first)) = .text first.text :=
    adapt_text hfirst affinity
  have hhigh : affinity.adapt (.ofParam (.timestamp last)) = .text last.text :=
    adapt_text hlast affinity
  have hge : ∀ o, holds .ge o = decide (o ≠ .lt) := by decide
  have hle : ∀ o, holds .le o = decide (o ≠ .gt) := by decide
  simp only [truth, compareCells, hlow, hhigh, Cell.order_text, Cell.isNull, Bool.or_self,
    Bool.false_eq_true, if_false, Truth.and_some, hge, hle]
  exact congrArg some (Bool.decide_and _ _).symm

theorem bytesBetween_iff {first last x : Instant} (hfirst : first.FourDigits)
    (hlast : last.FourDigits) (hrecorded : last.Recorded) (hx : x.FourDigits)
    (hwhole : x.wholeSecond = x) :
    BytesBetween first.text last.text x.text ↔ first.wholeSecond ≤ x ∧ x ≤ last := by
  unfold BytesBetween
  rw [ne_eq, Cell.compareBytes_lt_iff, ne_eq, Cell.compareBytes_gt_iff, hx.text_lt_iff hfirst,
    hlast.text_lt_iff hx, ← hrecorded.le_wholeSecond_iff hwhole, hwhole]
  change ¬¬first.wholeSecond ≤ x ∧ ¬¬x ≤ last.wholeSecond ↔ _
  rw [not_not, not_not]

variable {r : Request} {timeColumn : String} {s : Statement} {range : TimeRange}

/-- A window of time keeps the whole seconds from the second of its first bound up to its last
bound, whatever affinity the column has. -/
theorem window_selects (hcompile : r.compile timeColumn = .ok s) (hrange : r.range = some range)
    (hrecorded : range.Recorded) (hfirst : range.first.FourDigits)
    (hlast : range.last.FourDigits) :
    ∃ window filters, s.predicates = window :: filters ∧
      window = .between (r.rangeColumn timeColumn) (.timestamp range.first)
        (.timestamp range.last) ∧
      ∀ x : Instant, x.FourDigits → x.wholeSecond = x →
        (BytesBetween range.first.text range.last.text x.text ↔
          range.first.wholeSecond ≤ x ∧ x ≤ range.last) ∧
        ∀ affinity, truth affinity (.text x.text) window =
          some (decide (range.first.wholeSecond ≤ x ∧ x ≤ range.last)) := by
  obtain ⟨filters, _, hpredicates⟩ := (Request.compiled_of_compile hcompile).predicates
  rw [hrange] at hpredicates
  refine ⟨_, filters, hpredicates, rfl, fun x hx hwhole => ?_⟩
  have hiff := bytesBetween_iff hfirst hlast hrecorded.2 hx hwhole
  refine ⟨hiff, fun affinity => ?_⟩
  rw [truth_between hfirst hlast]
  simp only [hiff]

/-- From half a second behind the first midnight of March 2024 to the middle of a leap second at the
end of that day. -/
def fromHalfSecond : Request where
  table := "orders"
  measures := [⟨"id", .count, some "n"⟩]
  range := some ⟨⟨19783, 0, 500000000⟩, ⟨19783, 86399, 1500000000⟩⟩

theorem window_selects_fromHalfSecond : ∃ s window filters,
    fromHalfSecond.compile Request.defaultTimeColumn = .ok s ∧ s.predicates = window :: filters ∧
      truth .text (.text "2024-02-29 23:59:59") window = some false ∧
      truth .text (.text "2024-03-01 00:00:00") window = some true ∧
      truth .text (.text "2024-03-01 23:59:60") window = some true ∧
      truth .text (.text "2024-03-02 00:00:00") window = some false := by
  obtain ⟨s, hs⟩ : ∃ s, fromHalfSecond.compile Request.defaultTimeColumn = .ok s := ⟨_, rfl⟩
  obtain ⟨window, filters, hpredicates, _, hselects⟩ := window_selects hs rfl
    ⟨⟨by decide, by decide⟩, ⟨by decide, by decide⟩⟩ (by decide) (by decide)
  have hbefore := (hselects ⟨19782, 86399, 0⟩ (by decide) (by decide)).2 .text
  have hfirst := (hselects ⟨19783, 0, 0⟩ (by decide) (by decide)).2 .text
  have hlast := (hselects ⟨19783, 86399, 1000000000⟩ (by decide) (by decide)).2 .text
  have hbehind := (hselects ⟨19784, 0, 0⟩ (by decide) (by decide)).2 .text
  exact ⟨s, window, filters, hs, hpredicates, hbefore, hfirst, hlast, hbehind⟩

/-- The second that the first bound lies in is kept, though it starts before the bound. -/
theorem window_keeps_earlier : ∃ s range window filters,
    fromHalfSecond.compile Request.defaultTimeColumn = .ok s ∧ fromHalfSecond.range = some range ∧
      range.Recorded ∧ range.first.FourDigits ∧ range.last.FourDigits ∧
      s.predicates = window :: filters ∧
      ∃ x : Instant, x.FourDigits ∧ x.wholeSecond = x ∧
        truth .text (.text x.text) window = some true ∧ ¬range.first ≤ x :=
  ⟨_, _, _, _, rfl, rfl, ⟨⟨by decide, by decide⟩, ⟨by decide, by decide⟩⟩, by decide, by decide,
    rfl, ⟨19783, 0, 0⟩, by decide, by decide, by decide +kernel, by decide⟩

end Rollup.Store
