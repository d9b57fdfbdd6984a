import Rollup.Proofs.Calendar.Layouts
import Rollup.Proofs.Calendar.LeapSeconds
/-!
Times on a clock and what the layouts of instants read from them. A clock shows a date in a year of
four digits, an hour, a minute and a second, which is sixty in a leap second, and maybe a fraction
of the second. Every layout reads the time that it shows, behind an offset the time of the zone
that many seconds earlier, and blanks around the text do not matter.
-/
namespace Rollup

open Text (Scanner)
open Text.Scanner

namespace Calendar

/-! ### Texts of dates and clock times -/

/-- The digits of a fraction behind a point; nothing if there are none. -/
def pointText (digits : List Char) : String :=
  if digits = [] then "" else "." ++ String.ofList digits

/-- A clock time with the digits of a fraction of its second. -/
def timeText (hour minute second : Nat) (digits : List Char) : String :=
  twoDigits hour ++ ":" ++ twoDigits minute ++ ":" ++ twoDigits second ++ pointText digits

/-- The nanoseconds of a fraction. -/
def nanoOfDigits (digits : List Char) : Nat := Double.ofDigits digits * 10 ^ (9 - digits.length)

theorem Instant.text_eq (t : Instant) :
    t.text = t.date.text ++ " " ++ timeText t.hour t.minute t.clockSecond [] := by
  simp [text, clockText, timeText, pointText]

namespace Scanner

theorem fraction_pointText {digits rest : List Char} (hdigits : ∀ c ∈ digits, c.isDigit = true)
    (hlength : digits.length ≤ 9) (hrest : Stops Char.isDigit rest)
    (hpoint : Stops (· == '.') rest) :
    fraction ((pointText digits).toList ++ rest) = some (nanoOfDigits digits, rest) := by
  unfold pointText nanoOfDigits
  split
  next hnil =>
    subst hnil
    exact fraction_of_stops hpoint
  next hne => simpa using fraction_run hne hdigits hlength hrest

theorem stops_pointText {digits rest : List Char} (hrest : Stops Char.isDigit rest) :
    Stops Char.isDigit ((pointText digits).toList ++ rest) := by
  unfold pointText
  split
  next => simpa using hrest
  next =>
    rw [String.toList_append, List.append_assoc]
    exact stops_append (w := ".") rfl _

theorem clockTime_timeText {hour minute second : Nat} {digits rest : List Char} (hhour : hour < 100)
    (hminute : minute < 100) (hsecond : second < 100) (hdigits : ∀ c ∈ digits, c.isDigit = true)
    (hlength : digits.length ≤ 9) (hrest : Stops Char.isDigit rest)
    (hpoint : Stops (· == '.') rest) :
    clockTime ((timeText hour minute second digits).toList ++ rest) =
      some (fun date => Instant.ofClock? date hour minute second (nanoOfDigits digits), rest) := by
  have hcolon (cs : List Char) : Stops Char.isDigit (':' :: cs) := stops_append (w := ":") rfl cs
  have htext : (timeText hour minute second digits).toList ++ rest =
      (twoDigits hour).toList ++ (':' :: ((twoDigits minute).toList ++ (':' ::
        ((twoDigits second).toList ++ ((pointText digits).toList ++ rest))))) := by
    simp [timeText]
  unfold clockTime
  rw [htext, bind_of_eq (small_twoDigits hhour (hcolon _)), bind_of_eq (char_cons _ _),
    bind_of_eq (small_twoDigits hminute (hcolon _)), bind_of_eq (char_cons _ _),
    bind_of_eq (small_twoDigits hsecond (stops_pointText hrest)),
    bind_of_eq (fraction_pointText hdigits hlength hrest hpoint)]
  rfl

theorem dashedDate_text {d : Date} {rest : List Char} (hd : d.Proper)
    (hrest : Stops Char.isDigit rest) : dashedDate (d.text.toList ++ rest) = some (d, rest) := by
  have hdash (cs : List Char) : Stops Char.isDigit ('-' :: cs) := stops_append (w := "-") rfl cs
  obtain ⟨hmonth, hday⟩ := hd.lt_hundred
  have htext : d.text.toList ++ rest = (yearText d.year).toList ++ ('-' ::
      ((twoDigits d.month).toList ++ ('-' :: ((twoDigits d.day).toList ++ rest)))) := by
    simp [Date.text]
  unfold dashedDate
  rw [htext, bind_of_eq (year_yearText _ (hdash _)), bind_of_eq (char_cons _ _),
    bind_of_eq (small_twoDigits hmonth (hdash _)), bind_of_eq (char_cons _ _),
    bind_of_eq (small_twoDigits hday hrest)]
  rfl

/-- A date and a clock time, parted as the layout wants them. -/
theorem dateAndTime_text {parting : Text.Scanner Unit} {between : String} {d : Date}
    {hour minute second : Nat} {digits : List Char} (hd : d.Proper)
    (hbetween : ∀ cs, Stops Text.isBlank cs → Stops Char.isDigit (between.toList ++ cs) ∧
      parting (between.toList ++ cs) = some ((), cs))
    (hhour : hour < 100) (hminute : minute < 100) (hsecond : second < 100)
    (hdigits : ∀ c ∈ digits, c.isDigit = true) (hlength : digits.length ≤ 9) :
    dateAndTime parting (d.text ++ between ++ timeText hour minute second digits).toList =
      some (Instant.ofClock? d hour minute second (nanoOfDigits digits), []) := by
  have htime := clockTime_timeText hhour hminute hsecond hdigits hlength
    (by simp [Stops] : Stops Char.isDigit []) (by simp [Stops])
  have hstart : Stops Text.isBlank (timeText hour minute second digits).toList := by
    unfold timeText
    simp only [String.toList_append, List.append_assoc]
    exact stops_padded (fun _ => isBlank_of_isDigit) 2 hour _
  obtain ⟨hend, hparting⟩ := hbetween _ hstart
  rw [List.append_nil] at htime
  rw [dateAndTime_eq, String.toList_append, String.toList_append, List.append_assoc,
    bind_of_eq (dashedDate_text hd hend), bind_of_eq hparting, bind_of_eq htime]
  rfl

/-! ### The internet format -/

theorem fixed_padded {width n : Nat} (hw : 0 < width) (hn : n < 10 ^ width) (rest : List Char) :
    fixed width ((padded width n).toList ++ rest) = some (n, rest) := by
  rw [fixed_run (length_padded hw hn) (fun _ => isDigit_of_mem_padded), ofDigits_padded]

theorem fixed_twoDigits {n : Nat} (hn : n < 100) (rest : List Char) :
    fixed 2 ((twoDigits n).toList ++ rest) = some (n, rest) :=
  fixed_padded (by decide) (by simpa using hn) rest

end Scanner

/-! ### Nothing to trim -/

theorem isBlank_of_mem_padded {width n : Nat} {c : Char} (h : c ∈ (padded width n).toList) :
    Text.isBlank c = false :=
  isBlank_of_isDigit (isDigit_of_mem_padded h)

theorem isBlank_of_mem_yearText {y : Int} {c : Char} (h : c ∈ (yearText y).toList) :
    Text.isBlank c = false := by
  unfold yearText at h
  split at h
  · exact isBlank_of_mem_padded h
  · rw [String.toList_append, List.mem_append] at h
    rcases h with h | h
    · split at h <;> (cases List.mem_singleton.mp h; decide)
    · exact isBlank_of_mem_padded h

theorem yearText_ne_nil (y : Int) : (yearText y).toList ≠ [] := by
  unfold yearText
  split
  · exact padded_ne_nil 4 _
  · rw [String.toList_append]
    exact List.append_ne_nil_of_right_ne_nil _ (padded_ne_nil 4 _)

theorem trimChars_date (d : Date) : Text.trimChars d.text.toList = d.text.toList := by
  have htext : d.text.toList = (yearText d.year).toList ++
      ('-' :: ((twoDigits d.month).toList ++ ['-'])) ++ (twoDigits d.day).toList := by
    simp [Date.text]
  rw [htext]
  exact Text.trimChars_of_ends (yearText_ne_nil _) (padded_ne_nil 2 _)
    (fun _ => isBlank_of_mem_yearText) (fun _ => isBlank_of_mem_padded) _

/-- A date and a clock time start with a digit or a sign, and end with a digit or with what stands
behind them. -/
theorem trimChars_dateAndTime (d : Date) (between : String) (hour minute second : Nat)
    {digits : List Char} (hdigits : ∀ c ∈ digits, c.isDigit = true) (behind : String)
    (hbehind : ∀ c ∈ behind.toList, Text.isBlank c = false) :
    Text.trimChars (d.text ++ between ++ timeText hour minute second digits ++ behind).toList =
      (d.text ++ between ++ timeText hour minute second digits ++ behind).toList := by
  have htext : (d.text ++ between ++ timeText hour minute second digits ++ behind).toList =
      (yearText d.year).toList ++ ('-' :: ((twoDigits d.month).toList ++ ('-' ::
        ((twoDigits d.day).toList ++ (between.toList ++ ((twoDigits hour).toList ++ (':' ::
          ((twoDigits minute).toList ++ [':'])))))))) ++
      (twoDigits second ++ pointText digits ++ behind).toList := by
    simp [Date.text, timeText]
  have hend : ∀ c ∈ (twoDigits second ++ pointText digits ++ behind).toList,
      Text.isBlank c = false := by
    intro c hc
    simp only [String.toList_append, List.mem_append] at hc
    rcases hc with (hc | hc) | hc
    · exact isBlank_of_mem_padded hc
    · unfold pointText at hc
      split at hc
      · cases hc
      · have hc : c = '.' ∨ c ∈ digits := by simpa using hc
        rcases hc with rfl | hc
        · decide
        · exact isBlank_of_isDigit (hdigits c hc)
    · exact hbehind c hc
  have hne : (twoDigits second ++ pointText digits ++ behind).toList ≠ [] := by
    rw [String.toList_append, String.toList_append, List.append_assoc]
    exact List.append_ne_nil_of_left_ne_nil (padded_ne_nil 2 second) _
  rw [htext]
  exact Text.trimChars_of_ends (yearText_ne_nil _) hne (fun _ => isBlank_of_mem_yearText) hend _

/-! ### Offsets -/

/-- An offset from universal time as it stands behind a clock time. -/
inductive Zone where
  | universal
  | shifted (ahead : Bool) (hour : Fin 24) (minute : Fin 60)

namespace Zone

/-- How far the clocks of the zone are ahead, in seconds. -/
def seconds : Zone → Int
  | universal => 0
  | shifted ahead hour minute =>
    let distance : Int := (hour : Nat) * 3600 + (minute : Nat) * 60
    if ahead then distance else -distance

def text : Zone → String
  | universal => "Z"
  | shifted ahead hour minute =>
    (if ahead then "+" else "-") ++ twoDigits hour ++ ":" ++ twoDigits minute

theorem natAbs_seconds_lt (z : Zone) : z.seconds.natAbs < 86400 := by
  cases z with
  | universal => decide
  | shifted ahead hour minute =>
    have hhour := hour.isLt
    have hminute := minute.isLt
    simp only [seconds]
    split <;> omega

theorem offset_text (z : Zone) :
    Scanner.offset (Text.Scanner.char ':') z.text.toList = some (z.seconds, []) := by
  cases z with
  | universal => rfl
  | shifted ahead hour minute =>
    have hlast := Scanner.fixed_twoDigits (n := minute) (by omega) []
    rw [List.append_nil] at hlast
    have hread (sign : Char)
        (hsign : (sign == '+' || sign == '-' || sign == Char.ofNat 0x2212) = true) :
        Scanner.signedOffset (Text.Scanner.char ':')
          (sign :: ((twoDigits hour).toList ++ (':' :: (twoDigits minute).toList))) =
          some (if sign == '+' then ((hour : Nat) : Int) * 3600 + (minute : Nat) * 60
            else -(((hour : Nat) : Int) * 3600 + (minute : Nat) * 60), []) := by
      have hchar : charWhere (fun c => c == '+' || c == '-' || c == Char.ofNat 0x2212)
          (sign :: ((twoDigits hour).toList ++ (':' :: (twoDigits minute).toList))) =
          some (sign, (twoDigits hour).toList ++ (':' :: (twoDigits minute).toList)) := if_pos hsign
      unfold Scanner.signedOffset
      rw [bind_of_eq hchar, bind_of_eq (Scanner.fixed_twoDigits (by omega) _),
        bind_of_eq (Scanner.char_cons _ _), bind_of_eq hlast, if_pos minute.isLt]
      rfl
    cases ahead with
    | true => simpa [text, seconds, Scanner.offset] using hread '+' rfl
    | false => simpa [text, seconds, Scanner.offset] using hread '-' rfl

/-- What follows a clock time starts with a letter or a sign. -/
theorem stops_text {test : Char → Bool} (huniversal : test 'Z' = false) (hahead : test '+' = false)
    (hbehind : test '-' = false) (z : Zone) : Stops test z.text.toList := by
  intro c hc
  cases z with
  | universal =>
    cases hc
    exact huniversal
  | shifted ahead hour minute =>
    cases ahead with
    | true =>
      obtain rfl : '+' = c := by simpa [text] using hc
      exact hahead
    | false =>
      obtain rfl : '-' = c := by simpa [text] using hc
      exact hbehind

theorem isBlank_of_mem_text (z : Zone) {c : Char} (h : c ∈ z.text.toList) :
    Text.isBlank c = false := by
  cases z with
  | universal =>
    cases List.mem_singleton.mp h
    decide
  | shifted ahead hour minute =>
    simp only [text, String.toList_append, List.mem_append] at h
    rcases h with ((h | h) | h) | h
    · cases ahead <;> (cases List.mem_singleton.mp h; decide)
    · exact isBlank_of_mem_padded h
    · cases List.mem_singleton.mp h
      decide
    · exact isBlank_of_mem_padded h

end Zone

namespace Scanner

theorem internet_text {d : Date} {hour minute second : Nat} {digits : List Char} (hd : d.Proper)
    (hyear : 0 ≤ d.year ∧ d.year ≤ 9999) (hhour : hour < 100) (hminute : minute < 100)
    (hsecond : second < 100) (hdigits : ∀ c ∈ digits, c.isDigit = true)
    (hlength : digits.length ≤ 9) (z : Zone) :
    internet (d.text ++ "T" ++ timeText hour minute second digits ++ z.text).toList =
      some (atOffset? (Instant.ofClock? d hour minute second (nanoOfDigits digits)) z.seconds,
        []) := by
  obtain ⟨hmonth, hday⟩ := hd.lt_hundred
  have htext : (d.text ++ "T" ++ timeText hour minute second digits ++ z.text).toList =
      (padded 4 d.year.natAbs).toList ++ ('-' :: ((twoDigits d.month).toList ++
        ('-' :: ((twoDigits d.day).toList ++ ('T' :: ((twoDigits hour).toList ++
          (':' :: ((twoDigits minute).toList ++ (':' :: ((twoDigits second).toList ++
            ((pointText digits).toList ++ z.text.toList))))))))))) := by
    simp [Date.text, timeText, yearText, hyear]
  have hnatAbs : ((d.year.natAbs : Nat) : Int) = d.year := by omega
  have hpoint := fraction_pointText hdigits hlength (z.stops_text rfl rfl rfl)
    (z.stops_text rfl rfl rfl)
  unfold internet
  rw [htext, bind_of_eq (fixed_padded (by decide) (by omega) _), bind_of_eq (char_cons _ _),
    bind_of_eq (fixed_twoDigits hmonth _), bind_of_eq (char_cons _ _),
    bind_of_eq (fixed_twoDigits hday _), bind_of_eq (separator_cons _),
    bind_of_eq (fixed_twoDigits hhour _), bind_of_eq (char_cons _ _),
    bind_of_eq (fixed_twoDigits hminute _), bind_of_eq (char_cons _ _),
    bind_of_eq (fixed_twoDigits hsecond _), bind_of_eq hpoint, bind_of_eq z.offset_text, hnatAbs]
  rfl

end Scanner


/-! ### Times on the clock -/

/-- A date in a year of four digits and a time that a clock can show, sixty for the second of a leap
second, with the digits of a fraction of the second. -/
structure WallClock where
  date : Date
  hour : Nat
  minute : Nat
  second : Nat
  /-- Nothing, or the digits behind the point. -/
  fraction : List Char
  proper : date.Proper
  year : 0 ≤ date.year ∧ date.year ≤ 9999
  hour_lt : hour < 24
  minute_lt : minute < 60
  second_le : second ≤ 60
  fraction_length : fraction.length ≤ 9
  fraction_digits : ∀ c ∈ fraction, c.isDigit = true

namespace WallClock

variable (w : WallClock)

/-- The date and the clock time with something between them. -/
def text (between : String) : String :=
  w.date.text ++ between ++ timeText w.hour w.minute w.second w.fraction

/-- The instant at which a clock of universal time shows the time. -/
def instant : Instant :=
  Instant.ofClock w.date w.hour w.minute w.second (nanoOfDigits w.fraction)

theorem valid : w.date.Valid := by
  obtain ⟨hmonth, hmonth', hday, hday'⟩ := w.proper
  obtain ⟨hyear, hyear'⟩ := w.year
  unfold Date.Valid Date.firstYear Date.lastYear
  omega

theorem nano_lt : nanoOfDigits w.fraction < nanosPerSecond := by
  calc nanoOfDigits w.fraction
      < 10 ^ w.fraction.length * 10 ^ (9 - w.fraction.length) :=
        Nat.mul_lt_mul_of_pos_right (Double.ofDigits_lt w.fraction_digits) (by positivity)
    _ = nanosPerSecond := by rw [← Nat.pow_add, Nat.add_sub_cancel' w.fraction_length]; rfl

theorem ofClock?_eq : Instant.ofClock? w.date w.hour w.minute w.second (nanoOfDigits w.fraction) =
    some w.instant := by
  unfold Instant.ofClock?
  exact if_pos ⟨w.valid, w.hour_lt, w.minute_lt, w.second_le, w.nano_lt⟩

theorem ofClock?_midnight : Instant.ofClock? w.date 0 0 0 0 = some w.instant.midnight := by
  have hmidnight : w.instant.midnight = Instant.ofClock w.date 0 0 0 0 := by
    unfold instant Instant.ofClock Instant.midnight
    split <;> rfl
  rw [hmidnight]
  unfold Instant.ofClock?
  exact if_pos ⟨w.valid, by decide, by decide, by decide, by decide⟩

/-- Years of four digits are far from both ends of the calendar. -/
theorem day_bounds : Date.firstDay < w.date.dayNumber ∧ w.date.dayNumber < Date.lastDay := by
  obtain ⟨hyear, hyear'⟩ := w.year
  have hfirst : Date.firstDay < Date.dayNumber ⟨0, 1, 1⟩ := by decide
  have hlast : Date.dayNumber ⟨10000, 1, 1⟩ < Date.lastDay := by decide
  have hstart := Date.newYear_mono hyear
  have hend := Date.newYear_mono (show w.date.year + 1 ≤ 10000 by omega)
  have hday := Date.newYear_le_dayNumber w.proper
  have hnext := Date.dayNumber_lt_nextYear w.proper
  omega

theorem exists_atOffset? (z : Zone) : ∃ t, atOffset? (some w.instant) z.seconds = some t ∧
    t.Representable ∧ t.unixSeconds = w.instant.unixSeconds - z.seconds ∧
    t.nano = w.instant.nano := by
  obtain ⟨hfirst, hlast⟩ := w.day_bounds
  have hoffset := z.natAbs_seconds_lt
  obtain ⟨_, _, hsecond, hnano⟩ := Instant.representable_of_ofClock? w.ofClock?_eq
  have hday : w.instant.day = w.date.dayNumber := by
    unfold instant Instant.ofClock
    split <;> rfl
  have hrep : Instant.Representable ⟨w.instant.day + (w.instant.second - z.seconds) / 86400,
      ((w.instant.second - z.seconds) % 86400).toNat, w.instant.nano⟩ := by
    refine ⟨?_, ?_, ?_, hnano⟩ <;> dsimp only <;> omega
  refine ⟨_, ?_, hrep, ?_, rfl⟩
  · unfold atOffset?
    rw [if_pos hoffset]
    exact if_pos hrep
  · unfold Instant.unixSeconds
    dsimp only
    omega

end WallClock

namespace Instant

/-- One of the layouts reads an instant from a text, and so does the reader that tries them all. -/
def ReadBy (layout : Text.Scanner (Option Instant)) (s : String) (t : Instant) : Prop :=
  ofLayout? layout s = some t ∧ ofText? s = some t

theorem ReadBy.of_framed {layout : Text.Scanner (Option Instant)} {s before after : String}
    {t : Instant} (hlayout : layout ∈ layouts) (hbefore : Text.allBlank before = true)
    (hafter : Text.allBlank after = true) (htrim : Text.trimChars s.toList = s.toList)
    (h : layout s.toList = some (some t, [])) : ReadBy layout (before ++ s ++ after) t := by
  have hread : ofLayout? layout (before ++ s ++ after) = some t := by
    rw [ofLayout?_eq_some_iff, String.toList_append, String.toList_append,
      Text.trimChars_framed (List.all_eq_true.mp hbefore) (List.all_eq_true.mp hafter), htrim, h]
  exact ⟨hread, ofText?_of_layout hlayout hread⟩

end Instant

namespace WallClock

variable (w : WallClock) {before after : String}

theorem trimChars_text (between : String) :
    Text.trimChars (w.text between).toList = (w.text between).toList := by
  have h := trimChars_dateAndTime w.date between w.hour w.minute w.second w.fraction_digits ""
    (by simp)
  simpa [text] using h

theorem readBy_dateAndTime {parting : Text.Scanner Unit} {between : String}
    (hlayout : dateAndTime parting ∈ layouts)
    (hbetween : ∀ cs, Stops Text.isBlank cs → Stops Char.isDigit (between.toList ++ cs) ∧
      parting (between.toList ++ cs) = some ((), cs))
    (hbefore : Text.allBlank before = true) (hafter : Text.allBlank after = true) :
    Instant.ReadBy (dateAndTime parting) (before ++ w.text between ++ after) w.instant := by
  have hread := Scanner.dateAndTime_text w.proper hbetween (w.hour_lt.trans (by decide))
    (w.minute_lt.trans (by decide)) (lt_of_le_of_lt w.second_le (by decide)) w.fraction_digits
    w.fraction_length
  rw [w.ofClock?_eq] at hread
  exact .of_framed hlayout hbefore hafter (w.trimChars_text between) hread

theorem readBy_internet (z : Zone) (hbefore : Text.allBlank before = true)
    (hafter : Text.allBlank after = true) :
    ∃ t, Instant.ReadBy internet (before ++ (w.text "T" ++ z.text) ++ after) t ∧
      t.Representable ∧ t.unixSeconds = w.instant.unixSeconds - z.seconds ∧
      t.nano = w.instant.nano := by
  obtain ⟨t, ht, hrep, hseconds, hnano⟩ := w.exists_atOffset? z
  have hread := Scanner.internet_text w.proper w.year (w.hour_lt.trans (by decide))
    (w.minute_lt.trans (by decide)) (lt_of_le_of_lt w.second_le (by decide)) w.fraction_digits
    w.fraction_length z
  rw [w.ofClock?_eq, ht] at hread
  have htrim := trimChars_dateAndTime w.date "T" w.hour w.minute w.second w.fraction_digits
    z.text (fun _ => z.isBlank_of_mem_text)
  exact ⟨t, .of_framed (by simp [layouts]) hbefore hafter htrim hread, hrep, hseconds, hnano⟩

theorem readBy_dateAlone (hbefore : Text.allBlank before = true)
    (hafter : Text.allBlank after = true) :
    Instant.ReadBy dateAlone (before ++ w.date.text ++ after) w.instant.midnight := by
  have hdate := Scanner.dashedDate_text w.proper (by simp [Stops] : Stops Char.isDigit [])
  rw [List.append_nil] at hdate
  have hread : dateAlone w.date.text.toList = some (some w.instant.midnight, []) := by
    unfold dateAlone
    rw [bind_of_eq hdate, ← w.ofClock?_midnight]
    rfl
  exact .of_framed (by simp [layouts]) hbefore hafter (trimChars_date w.date) hread

end WallClock

/-- No text is read by two of the layouts, so their order makes no difference. And every layout
reads its own wall-clock times exactly, with their fraction and whatever blanks around them: as the
time itself, as the time at the offset that follows, or as the midnight of a date alone. -/
theorem layouts_exclusive_exact :
    (∀ s : String, layouts.Pairwise (fun p q =>
        Instant.ofLayout? p s = none ∨ Instant.ofLayout? q s = none) ∧
      ∀ order : List (Text.Scanner (Option Instant)), order.Perm layouts →
        order.findSome? (Instant.ofLayout? · s) = Instant.ofText? s) ∧
    ∀ (w : WallClock) (before after : String), Text.allBlank before = true →
      Text.allBlank after = true →
        Instant.ReadBy (dateAndTime blanks) (before ++ w.text " " ++ after) w.instant ∧
        Instant.ReadBy (dateAndTime (Text.Scanner.char 'T')) (before ++ w.text "T" ++ after)
          w.instant ∧
        (∀ z : Zone, ∃ t, Instant.ReadBy internet (before ++ (w.text "T" ++ z.text) ++ after) t ∧
          t.Representable ∧ t.unixSeconds = w.instant.unixSeconds - z.seconds ∧
          t.nano = w.instant.nano) ∧
        Instant.ReadBy dateAlone (before ++ w.date.text ++ after) w.instant.midnight := by
  refine ⟨fun s => ⟨layouts_pairwise s, fun order horder => ofText?_eq_of_perm horder s⟩, ?_⟩
  intro w before after hbefore hafter
  refine ⟨w.readBy_dateAndTime (by simp [layouts]) ?_ hbefore hafter,
    w.readBy_dateAndTime (by simp [layouts]) ?_ hbefore hafter,
    fun z => w.readBy_internet z hbefore hafter, w.readBy_dateAlone hbefore hafter⟩
  · exact fun cs hcs => ⟨stops_append (w := " ") rfl cs, blanks_of_stops hcs⟩
  · exact fun cs _ => ⟨stops_append (w := "T") rfl cs, Scanner.char_cons 'T' cs⟩

/-- The leap second at the end of 2016, half over. -/
def leapSecond2016 : WallClock where
  date := ⟨2016, 12, 31⟩
  hour := 23
  minute := 59
  second := 60
  fraction := ['5']
  proper := ⟨by decide, by decide, by decide, by decide⟩
  year := by decide
  hour_lt := by decide
  minute_lt := by decide
  second_le := by decide
  fraction_length := by decide
  fraction_digits := List.forall_mem_singleton.mpr rfl

theorem layouts_exclusive_exact_leapSecond :
    layouts.reverse.findSome? (Instant.ofLayout? · "2016-12-31T23:59:60.5-05:30") =
        Instant.ofText? "2016-12-31T23:59:60.5-05:30" ∧
      ∃ t, Instant.ReadBy internet "\u3000\t2016-12-31T23:59:60.5-05:30\n" t ∧
        t.unixSeconds = 1483248599 ∧ t.nano = 1500000000 := by
  obtain ⟨horder, hread⟩ := layouts_exclusive_exact
  obtain ⟨_, _, hinternet, _⟩ := hread leapSecond2016 "\u3000\t" "\n" (by decide) (by decide)
  obtain ⟨t, ht, _, hseconds, hnano⟩ := hinternet (.shifted false 5 30)
  exact ⟨(horder _).2 _ (List.reverse_perm _), t, ht, hseconds, hnano⟩

end Calendar
end Rollup
