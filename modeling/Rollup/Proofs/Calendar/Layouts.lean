import Rollup.Proofs.Calendar.Texts
/-!
Layouts of instants. Four layouts are tried on a text one after another, and no text is read by two
of them: all start with a date, and what stands behind the date belongs to one layout only. So the
order in which they are tried makes no difference.

The internet format has fixed widths, the others free ones. A date or a clock time that is read
with fixed widths is read with free ones too, and then only the offset is left over.
-/
namespace Rollup

open Text (Scanner)
open Text.Scanner

namespace Calendar

namespace Scanner

/-! ### Parts of the layouts -/

/-- A clock time, as what it makes of a date. -/
def clockTime : Text.Scanner (Date → Option Instant) := do
  let hour ← small
  Text.Scanner.char ':'
  let minute ← small
  Text.Scanner.char ':'
  let second ← small
  let nano ← fraction
  return fun date => Instant.ofClock? date hour minute second nano

theorem dateAndTime_eq (parting : Text.Scanner Unit) : dateAndTime parting = (do
    let date ← dashedDate
    parting
    let time ← clockTime
    return time date) := by
  simp [dateAndTime, clockTime]

/-! ### Free widths -/

theorem small_of_fixed {n : Nat} {cs rest : List Char} (h : fixed 2 cs = some (n, rest))
    (hrest : Stops Char.isDigit rest) : small cs = some (n, rest) := by
  obtain ⟨ds, rfl, hlength, hds, rfl⟩ := exists_of_fixed h
  have hne : ds ≠ [] := by
    rintro rfl
    cases hlength
  unfold small
  rw [bind_of_eq (blanks_of_stops (stops_of_digits hne hds (fun _ => isBlank_of_isDigit) rest))]
  exact digits_run hne hds (by intro w hw; cases hw; exact hlength.le) hrest

theorem year_of_fixed {n : Nat} {cs rest : List Char} (h : fixed 4 cs = some (n, rest))
    (hrest : Stops Char.isDigit rest) : year cs = some ((n : Int), rest) := by
  obtain ⟨ds, rfl, hlength, hds, rfl⟩ := exists_of_fixed h
  have hne : ds ≠ [] := by
    rintro rfl
    cases hlength
  exact year_of_unsigned (stops_of_digits hne hds (fun c hc => by simp [hc]) rest)
    (digits_run hne hds (by intro w hw; cases hw; exact hlength.le) hrest)

theorem dashedDate_of_fixed {cs next later rest : List Char} {y m d : Nat}
    (hyear : fixed 4 cs = some (y, '-' :: next)) (hmonth : fixed 2 next = some (m, '-' :: later))
    (hday : fixed 2 later = some (d, rest)) (hrest : Stops Char.isDigit rest) :
    dashedDate cs = some (⟨y, m, d⟩, rest) := by
  have hdash (cs : List Char) : Stops Char.isDigit ('-' :: cs) := stops_append (w := "-") rfl cs
  unfold dashedDate
  rw [bind_of_eq (year_of_fixed hyear (hdash _)), bind_of_eq (char_cons _ _),
    bind_of_eq (small_of_fixed hmonth (hdash _)), bind_of_eq (char_cons _ _),
    bind_of_eq (small_of_fixed hday hrest)]
  rfl

theorem clockTime_of_fixed {cs next later last rest : List Char} {h m s n : Nat}
    (hhour : fixed 2 cs = some (h, ':' :: next)) (hminute : fixed 2 next = some (m, ':' :: later))
    (hsecond : fixed 2 later = some (s, last)) (hlast : Stops Char.isDigit last)
    (hfraction : fraction last = some (n, rest)) :
    clockTime cs = some (fun date => Instant.ofClock? date h m s n, rest) := by
  have hcolon (cs : List Char) : Stops Char.isDigit (':' :: cs) := stops_append (w := ":") rfl cs
  unfold clockTime
  rw [bind_of_eq (small_of_fixed hhour (hcolon _)), bind_of_eq (char_cons _ _),
    bind_of_eq (small_of_fixed hminute (hcolon _)), bind_of_eq (char_cons _ _),
    bind_of_eq (small_of_fixed hsecond hlast), bind_of_eq hfraction]
  rfl

/-- An offset starts with a letter or a sign. -/
theorem stops_of_offset {parting : Text.Scanner Unit} {cs rest : List Char} {n : Int}
    (h : offset parting cs = some (n, rest)) : cs ≠ [] ∧ Stops Char.isDigit cs := by
  unfold offset at h
  split at h
  next => exact ⟨List.cons_ne_nil _ _, stops_append (w := "Z") rfl _⟩
  next => exact ⟨List.cons_ne_nil _ _, stops_append (w := "z") rfl _⟩
  next =>
    obtain ⟨sign, mid, hsign, _⟩ := exists_of_bind h
    obtain ⟨rfl, htest⟩ := eq_cons_of_charWhere hsign
    refine ⟨List.cons_ne_nil _ _, fun c hc => ?_⟩
    cases hc
    simp only [Bool.or_eq_true, beq_iff_eq] at htest
    rcases htest with (rfl | rfl) | rfl <;> decide

theorem stops_of_fraction {cs rest : List Char} {n : Nat} (h : fraction cs = some (n, rest))
    (hrest : Stops Char.isDigit rest) : Stops Char.isDigit cs := by
  unfold fraction at h
  split at h
  next => exact stops_append (w := ".") rfl _
  next =>
    cases h
    exact hrest

theorem eq_of_separator {cs rest : List Char} {u : Unit} (h : separator cs = some (u, rest)) :
    ∃ c, cs = c :: rest ∧ (c = 'T' ∨ c = 't' ∨ c = ' ') := by
  obtain ⟨c, mid, hc, h⟩ := exists_of_bind h
  cases h
  obtain ⟨rfl, htest⟩ := eq_cons_of_charWhere hc
  exact ⟨c, rfl, by simpa [or_assoc] using htest⟩

theorem stops_of_fixed {width n : Nat} {cs rest : List Char} {test : Char → Bool}
    (hwidth : 0 < width) (h : fixed width cs = some (n, rest))
    (htest : ∀ c, c.isDigit = true → test c = false) :
    Stops test cs := by
  obtain ⟨ds, rfl, rfl, hds, _⟩ := exists_of_fixed h
  exact stops_of_digits (List.length_pos_iff.mp hwidth) hds htest rest

/-- Behind the date and time of the internet format there is more. -/
theorem exists_of_internet {cs : List Char} {x : Option Instant} (h : internet cs = some (x, [])) :
    ∃ date parting next time behind, dashedDate cs = some (date, parting :: next) ∧
      (parting = 'T' ∨ parting = 't' ∨ parting = ' ') ∧ Stops Text.isBlank next ∧
      clockTime next = some (time, behind) ∧ behind ≠ [] := by
  obtain ⟨year, _, hyear, h⟩ := exists_of_bind h
  obtain ⟨_, _, hdash, h⟩ := exists_of_bind h
  obtain ⟨month, _, hmonth, h⟩ := exists_of_bind h
  obtain ⟨_, _, hdash', h⟩ := exists_of_bind h
  obtain ⟨day, _, hday, h⟩ := exists_of_bind h
  obtain ⟨_, _, hparting, h⟩ := exists_of_bind h
  obtain ⟨hour, _, hhour, h⟩ := exists_of_bind h
  obtain ⟨_, _, hcolon, h⟩ := exists_of_bind h
  obtain ⟨minute, _, hminute, h⟩ := exists_of_bind h
  obtain ⟨_, _, hcolon', h⟩ := exists_of_bind h
  obtain ⟨second, _, hsecond, h⟩ := exists_of_bind h
  obtain ⟨nano, behind, hnano, h⟩ := exists_of_bind h
  obtain ⟨offset, _, hoffset, _⟩ := exists_of_bind h
  cases eq_cons_of_char hdash
  cases eq_cons_of_char hdash'
  cases eq_cons_of_char hcolon
  cases eq_cons_of_char hcolon'
  obtain ⟨parting, rfl, hcase⟩ := eq_of_separator hparting
  obtain ⟨hbehind, hstops⟩ := stops_of_offset hoffset
  have hdate := dashedDate_of_fixed hyear hmonth hday
    (by rintro c hc; cases hc; rcases hcase with rfl | rfl | rfl <;> decide)
  have htime := clockTime_of_fixed hhour hminute hsecond (stops_of_fraction hnano hstops) hnano
  exact ⟨_, parting, _, _, behind, hdate, hcase,
    stops_of_fixed (by decide) hhour fun _ => isBlank_of_isDigit, htime, hbehind⟩

theorem exists_of_dateAndTime {parting : Text.Scanner Unit} {cs : List Char} {x : Option Instant}
    (h : dateAndTime parting cs = some (x, [])) : ∃ date rest next time,
      dashedDate cs = some (date, rest) ∧ parting rest = some ((), next) ∧
      clockTime next = some (time, []) := by
  rw [dateAndTime_eq] at h
  obtain ⟨date, rest, hdate, h⟩ := exists_of_bind h
  obtain ⟨_, next, hparting, h⟩ := exists_of_bind h
  obtain ⟨time, _, htime, h⟩ := exists_of_bind h
  cases h
  exact ⟨date, rest, next, time, hdate, hparting, htime⟩

theorem exists_of_dateAlone {cs : List Char} {x : Option Instant}
    (h : dateAlone cs = some (x, [])) : ∃ date, dashedDate cs = some (date, []) := by
  obtain ⟨date, rest, hdate, h⟩ := exists_of_bind h
  cases h
  exact ⟨date, hdate⟩

/-- A clock time starts with a digit, blanks in front of it aside. -/
theorem clockTime_eq_none {cs : List Char} (hblank : Stops Text.isBlank cs)
    (hdigit : Stops Char.isDigit cs) : clockTime cs = none := by
  have hdigits : digits (some 2) cs = none := by
    unfold digits
    cases cs with
    | nil => rfl
    | cons c cs => simp [hdigit c rfl]
  have hhour : small cs = none := by
    unfold small
    rw [bind_of_eq (blanks_of_stops hblank)]
    exact hdigits
  unfold clockTime
  rw [bind_of_none hhour]

end Scanner

open Scanner

/-! ### At most one layout -/

/-- The layouts of instants, in the order in which they are tried. -/
def layouts : List (Text.Scanner (Option Instant)) :=
  [internet, dateAndTime blanks, dateAndTime (Text.Scanner.char 'T'), dateAlone]

/-- No text as a whole is read by both. -/
def Exclusive (p q : Text.Scanner (Option Instant)) : Prop :=
  ∀ cs x y, p cs = some (x, []) → q cs ≠ some (y, [])

theorem no_time_behind_blanks {c : Char} {rest next : List Char} (hblank : Text.isBlank c = false)
    (hdigit : c.isDigit = false) (h : blanks (c :: rest) = some ((), next)) :
    clockTime next = none := by
  have hstops : Stops Text.isBlank (c :: rest) := by simpa [Stops] using hblank
  cases h.symm.trans (blanks_of_stops hstops)
  exact clockTime_eq_none hstops (by simpa [Stops] using hdigit)

theorem blanks_exclusive_letter :
    Exclusive (dateAndTime blanks) (dateAndTime (Text.Scanner.char 'T')) := by
  intro cs x y hblanks hletter
  obtain ⟨_, rest, next, _, hdate, hparting, htime⟩ := exists_of_dateAndTime hblanks
  obtain ⟨_, _, _, _, hdate', hparting', _⟩ := exists_of_dateAndTime hletter
  cases hdate.symm.trans hdate'
  cases eq_cons_of_char hparting'
  cases htime.symm.trans (no_time_behind_blanks (by decide) (by decide) hparting)

theorem dateAndTime_exclusive_dateAlone {parting : Text.Scanner Unit}
    (hend : ∀ next, parting [] = some ((), next) → next = []) :
    Exclusive (dateAndTime parting) dateAlone := by
  intro cs x y hboth halone
  obtain ⟨_, _, next, _, hdate, hparting, htime⟩ := exists_of_dateAndTime hboth
  obtain ⟨_, hdate'⟩ := exists_of_dateAlone halone
  cases hdate.symm.trans hdate'
  cases hend next hparting
  have hnone : clockTime [] = none := clockTime_eq_none (by simp [Stops]) (by simp [Stops])
  cases htime.symm.trans hnone

theorem internet_exclusive_dateAlone : Exclusive internet dateAlone := by
  intro cs x y hinternet halone
  obtain ⟨_, _, _, _, _, hdate, _⟩ := exists_of_internet hinternet
  obtain ⟨_, hdate'⟩ := exists_of_dateAlone halone
  cases hdate.symm.trans hdate'

theorem internet_exclusive_letter :
    Exclusive internet (dateAndTime (Text.Scanner.char 'T')) := by
  intro cs x y hinternet hletter
  obtain ⟨_, _, next, _, behind, hdate, _, _, htime, hbehind⟩ := exists_of_internet hinternet
  obtain ⟨_, _, _, _, hdate', hparting, htime'⟩ := exists_of_dateAndTime hletter
  cases hdate.symm.trans hdate'
  cases eq_cons_of_char hparting
  cases htime.symm.trans htime'
  exact hbehind rfl

theorem internet_exclusive_blanks : Exclusive internet (dateAndTime blanks) := by
  intro cs x y hinternet hblanks
  obtain ⟨_, c, next, _, behind, hdate, hc, hnext, htime, hbehind⟩ :=
    exists_of_internet hinternet
  obtain ⟨_, _, _, _, hdate', hparting, htime'⟩ := exists_of_dateAndTime hblanks
  cases hdate.symm.trans hdate'
  rcases hc with rfl | rfl | rfl
  · cases htime'.symm.trans (no_time_behind_blanks (by decide) (by decide) hparting)
  · cases htime'.symm.trans (no_time_behind_blanks (by decide) (by decide) hparting)
  · have hblank : blanks (' ' :: next) = some ((), next) := blanks_of_stops hnext
    cases hparting.symm.trans hblank
    cases htime.symm.trans htime'
    exact hbehind rfl

theorem layouts_exclusive : layouts.Pairwise Exclusive := by
  unfold layouts
  simp only [List.pairwise_cons, List.mem_cons, List.not_mem_nil, or_false, forall_eq_or_imp,
    forall_eq, false_imp_iff, implies_true, List.Pairwise.nil, and_true]
  exact ⟨⟨internet_exclusive_blanks, internet_exclusive_letter, internet_exclusive_dateAlone⟩,
    ⟨blanks_exclusive_letter, dateAndTime_exclusive_dateAlone fun _ h => by cases h; rfl⟩,
    dateAndTime_exclusive_dateAlone fun _ h => by cases h⟩

namespace Instant

/-- What a layout alone reads from a text, blanks around it aside. -/
def ofLayout? (layout : Text.Scanner (Option Instant)) (s : String) : Option Instant :=
  (whole? layout (Text.trim s)).join

theorem ofLayout?_eq_some_iff {layout : Text.Scanner (Option Instant)} {s : String} {t : Instant} :
    ofLayout? layout s = some t ↔ layout (Text.trimChars s.toList) = some (some t, []) := by
  unfold ofLayout? whole?
  rw [Text.toList_trim, Option.join_eq_some_iff]
  constructor
  · intro h
    split at h
    next x hx => rw [hx, Option.some.inj h]
    next => cases h
  · intro h
    rw [h]

theorem ofText?_eq_findSome? (s : String) : ofText? s = layouts.findSome? (ofLayout? · s) := by
  simp only [layouts, List.findSome?_cons, List.findSome?_nil]
  unfold ofText? ofLayout?
  dsimp only
  cases (whole? internet (Text.trim s)).join <;>
  cases (whole? (dateAndTime blanks) (Text.trim s)).join <;>
  cases (whole? (dateAndTime (Text.Scanner.char 'T')) (Text.trim s)).join <;>
  cases (whole? dateAlone (Text.trim s)).join <;> rfl

end Instant

open Instant

theorem Exclusive.ofLayout? {p q : Text.Scanner (Option Instant)} (h : Exclusive p q) (s : String) :
    ofLayout? p s = none ∨ ofLayout? q s = none := by
  rw [or_iff_not_imp_left, ← ne_eq, Option.ne_none_iff_exists']
  rintro ⟨t, ht⟩
  rw [Option.eq_none_iff_forall_ne_some]
  intro u hu
  exact h _ _ _ (ofLayout?_eq_some_iff.mp ht) (ofLayout?_eq_some_iff.mp hu)

theorem layouts_pairwise (s : String) :
    layouts.Pairwise fun p q => ofLayout? p s = none ∨ ofLayout? q s = none :=
  layouts_exclusive.imp fun h => h.ofLayout? s

/-! ### The order of the layouts -/

/-- Which of two answers comes first does not matter if never both are there. -/
theorem findSome?_perm {α β : Type} {f : α → Option β} {as bs : List α} (hperm : as.Perm bs)
    (h : as.Pairwise fun a b => f a = none ∨ f b = none) : as.findSome? f = bs.findSome? f := by
  induction hperm with
  | nil => rfl
  | cons a _ ih => rw [List.findSome?_cons, List.findSome?_cons, ih (List.pairwise_cons.mp h).2]
  | swap a b as =>
    obtain ⟨hb, _⟩ := List.pairwise_cons.mp h
    rcases hb a List.mem_cons_self with hnone | hnone
    · simp only [List.findSome?_cons, hnone]
    · simp only [List.findSome?_cons, hnone]
  | trans hfirst _ ih ih' =>
    exact (ih h).trans (ih' (hfirst.pairwise h fun hab => hab.symm))

theorem ofText?_eq_of_perm {order : List (Text.Scanner (Option Instant))}
    (h : order.Perm layouts) (s : String) : order.findSome? (ofLayout? · s) = ofText? s := by
  rw [ofText?_eq_findSome?, findSome?_perm h.symm (layouts_pairwise s)]

/-- What one layout reads is what the reader reads. -/
theorem ofText?_of_layout {layout : Text.Scanner (Option Instant)} {s : String} {t : Instant}
    (hlayout : layout ∈ layouts) (h : ofLayout? layout s = some t) : ofText? s = some t := by
  obtain ⟨before, after, hsplit⟩ := List.append_of_mem hlayout
  have hfront : (layout :: (before ++ after)).Perm layouts := hsplit ▸ List.perm_middle.symm
  rw [← ofText?_eq_of_perm hfront, List.findSome?_cons, h]

end Calendar
end Rollup
