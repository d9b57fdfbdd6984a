import Rollup.Calendar.Printer
/-!
Date templates. A template is read from the left; at each place the first fitting token counts:
a text between double quotes, then the named fields in a fixed order, in which a field stands before
the fields whose names it begins with. All other characters stand for themselves.
-/
namespace Rollup.Calendar

/-- The fields of an instant that a template can name. -/
inductive Field where
  | year
  | yearOfCentury
  | monthName
  | monthAbbreviation
  | month
  | day
  | hour
  | halfDayHour
  | minute
  | second
  | halfDay
  | quarter
  deriving Repr, DecidableEq

inductive Piece where
  | plain (c : Char)
  | quoted (text : List Char)
  | field (f : Field)
  deriving Repr, DecidableEq

/-- The names of fields, in the order in which they are tried. -/
def fieldNames : List (List Char × Field) :=
  [("YYYY".toList, .year), ("YY".toList, .yearOfCentury), ("Month".toList, .monthName),
   ("Mon".toList, .monthAbbreviation), ("MM".toList, .month), ("DD".toList, .day),
   ("HH24".toList, .hour), ("HH12".toList, .halfDayHour), ("HH".toList, .halfDayHour),
   ("MI".toList, .minute), ("SS".toList, .second), ("AM".toList, .halfDay), ("PM".toList, .halfDay),
   ("Q".toList, .quarter)]

/-- The field named at the beginning of a text, and the text behind its name. -/
def fieldAt? (cs : List Char) : Option (Field × List Char) :=
  fieldNames.findSome? fun (name, f) =>
    if name.isPrefixOf cs then some (f, cs.drop name.length) else none

/-- The text up to the next double quote, and the text behind that. -/
def closingQuote? : List Char → Option (List Char × List Char)
  | [] => none
  | '"' :: rest => some ([], rest)
  | c :: rest => (closingQuote? rest).map fun (inner, tail) => (c :: inner, tail)

/-- The first piece of a text that is not empty, and the text behind it. -/
def firstPiece (c : Char) (rest : List Char) : Piece × List Char :=
  match if c = '"' then closingQuote? rest else none with
  | some (inner, tail) => (.quoted inner, tail)
  | none =>
    match fieldAt? (c :: rest) with
    | some (f, tail) => (.field f, tail)
    | none => (.plain c, rest)

theorem length_closingQuote? {cs inner tail : List Char} (h : closingQuote? cs = some (inner, tail)) :
    tail.length < cs.length := by
  fun_induction closingQuote? cs generalizing inner tail with
  | case1 => simp at h
  | case2 => simp_all
  | case3 c rest hc ih =>
    simp only [Option.map_eq_some_iff, Prod.mk.injEq, Prod.exists] at h
    obtain ⟨i, t, hr, -, rfl⟩ := h
    have := ih hr
    simp only [List.length_cons]
    omega

theorem length_fieldAt? {cs tail : List Char} {f : Field} (h : fieldAt? cs = some (f, tail)) :
    tail.length < cs.length := by
  obtain ⟨⟨name, g⟩, hm, h⟩ := List.exists_of_findSome?_eq_some h
  have hn : 0 < name.length := by
    have : ∀ p ∈ fieldNames, 0 < p.1.length := by decide
    exact this _ hm
  by_cases hp : name.isPrefixOf cs = true
  · simp only [hp, if_true, Option.some.injEq, Prod.mk.injEq] at h
    have hle := (List.isPrefixOf_iff_prefix.1 hp).length_le
    rw [← h.2, List.length_drop]
    omega
  · simp [hp] at h

/-- A piece is made of at least one character. -/
theorem length_firstPiece (c : Char) (rest : List Char) :
    (firstPiece c rest).2.length ≤ rest.length := by
  unfold firstPiece
  split
  · next inner tail h =>
    by_cases hc : c = '"'
    · simp only [hc, if_true] at h
      exact Nat.le_of_lt (length_closingQuote? h)
    · simp [hc] at h
  · split
    · next f tail h =>
      have := length_fieldAt? h
      simp only [List.length_cons] at this
      simp only
      omega
    · simp

/-- The pieces of a template, from left to right. -/
def pieces : List Char → List Piece
  | [] => []
  | c :: rest =>
    (firstPiece c rest).1 :: pieces (firstPiece c rest).2
  termination_by cs => cs.length
  decreasing_by
    have := length_firstPiece c rest
    simp only [List.length_cons]
    omega

/-- The names of the months. -/
def monthNames : List String :=
  ["January", "February", "March", "April", "May", "June", "July", "August", "September", "October",
   "November", "December"]

def nameOfMonth (month : Nat) : String := monthNames[month - 1]?.getD ""

/-- The value of a field: padded numbers, English names. -/
def Field.text (t : Instant) : Field → String
  | .year => yearText t.date.year
  | .yearOfCentury => twoDigits (t.date.year % 100).toNat
  | .monthName => nameOfMonth t.date.month
  | .monthAbbreviation => String.ofList ((nameOfMonth t.date.month).toList.take 3)
  | .month => twoDigits t.date.month
  | .day => twoDigits t.date.day
  | .hour => twoDigits t.hour
  | .halfDayHour => twoDigits ((t.hour + 11) % 12 + 1)
  | .minute => twoDigits t.minute
  | .second => twoDigits t.clockSecond
  | .halfDay => if t.hour < 12 then "AM" else "PM"
  | .quarter => toString ((t.date.month - 1) / 3 + 1)

def Piece.text (t : Instant) : Piece → List Char
  | .plain c => [c]
  | .quoted inner => inner
  | .field f => (f.text t).toList

/-- An instant written by a template. -/
def Instant.format (t : Instant) (template : String) : String :=
  String.ofList ((pieces template.toList).flatMap (Piece.text t))

example : (Instant.mk 19782 50400 0).format "YYYY-\"Q\"Q Mon HH12 PM" = "2024-Q1 Feb 02 PM" := by
  cbv

end Rollup.Calendar
