import Rollup.Proofs.Calendar.Layouts
import Rollup.Proofs.Statement.Acceptance
/-!
Literals as parameters. A bare scalar becomes the parameter that suits it, unless it is an integer
above the signed ones. An integer that is given with a tag may as well be given by its numeral, and
the numeral between blanks: all of them become the same parameter, or none of them becomes one.
-/
namespace Rollup

open Text (Scanner trim_framed)
open Text.Scanner

namespace Word

/-- The integers of sixty-four bits, with a sign or without one. -/
def Fits (n : Int) : Prop := -(greatestSigned : Int) - 1 ≤ n ∧ n ≤ (greatestUnsigned : Int)

instance (n : Int) : Decidable (Fits n) := by unfold Fits; infer_instance

theorem not_isSigned_of_lt {n : Int} (h : (greatestSigned : Int) < n) : ¬IsSigned n := by
  rintro ⟨-, hn⟩
  omega

/-- An integer without a sign may be too great for a signed one. -/
theorem Fits.isSigned_or {n : Int} (h : Fits n) :
    IsSigned n ∨ ∃ m : Nat, n = m ∧ greatestSigned < m ∧ m ≤ greatestUnsigned := by
  obtain ⟨hlow, hhigh⟩ := h
  by_cases hn : n ≤ greatestSigned
  · exact .inl ⟨hlow, hn⟩
  · obtain ⟨m, rfl⟩ := Int.eq_ofNat_of_zero_le (by omega : 0 ≤ n)
    exact .inr ⟨m, rfl, by omega, by omega⟩

end Word

/-- Null or a scalar, whose integers have sixty-four bits. -/
def Json.IsAtom (v : Json) : Prop :=
  (v = .null ∨ v.IsScalar) ∧ ∀ n, v = .number (.int n) → Word.Fits n

theorem Json.isAtom_int {n : Int} (h : Word.Fits n) : IsAtom (.number (.int n)) := by
  refine ⟨.inr (.inr (.inl ⟨_, rfl⟩)), fun m hm => ?_⟩
  cases hm
  exact h

/-! ### Numerals -/

section Numerals

variable {n : Int} {c : Char}

theorem toList_repr_nat (n : Nat) : (n : Int).repr.toList = Nat.toDigits 10 n :=
  Nat.toList_repr

/-- Digits, behind a sign if the number is negative. -/
theorem mem_numeral (h : c ∈ n.repr.toList) : c = '-' ∨ c.isDigit = true := by
  cases n with
  | ofNat n =>
    rw [Int.ofNat_eq_natCast, toList_repr_nat] at h
    exact .inr (isDigit_of_mem_toDigits h)
  | negSucc n =>
    rw [toList_repr_negSucc, List.mem_cons] at h
    exact h.imp_right isDigit_of_mem_toDigits

theorem isDigit_of_mem_tail_numeral (h : c ∈ n.repr.toList.tail) : c.isDigit = true := by
  cases n with
  | ofNat n =>
    rw [Int.ofNat_eq_natCast, toList_repr_nat] at h
    exact isDigit_of_mem_toDigits (List.mem_of_mem_tail h)
  | negSucc n =>
    rw [toList_repr_negSucc, List.tail_cons] at h
    exact isDigit_of_mem_toDigits h

@[simp] theorem trim_numeral (n : Int) : Text.trim n.repr = n.repr := by
  apply Text.trim_of_not_blank
  intro c hc
  rcases mem_numeral hc with rfl | hdigit
  · decide
  · exact Calendar.isBlank_of_isDigit hdigit

theorem toLower_of_isDigit (h : c.isDigit = true) : c.toLower = c := by
  have hc : c.val.toNat ≤ 57 := (Double.toNat_of_isDigit h).2
  have hupper : ¬(c.val ≥ 'A'.val ∧ c.val ≤ 'Z'.val) := by
    rintro ⟨hA, -⟩
    have hA' : 65 ≤ c.val.toNat := UInt32.le_iff_toNat_le.mp hA
    omega
  exact dif_neg hupper

@[simp] theorem fold_numeral (n : Int) : Text.fold n.repr = n.repr := by
  have hfold : ∀ c ∈ n.repr.toList, Text.foldChar c = c := by
    intro c hc
    rcases mem_numeral hc with rfl | hdigit
    · decide
    · have hsign : c ≠ Text.kelvinSign := by
        rintro rfl
        cases hdigit
      rw [Text.foldChar, if_neg hsign, toLower_of_isDigit hdigit]
  rw [Text.fold, List.map_congr_left hfold, List.map_id', String.ofList_toList]

end Numerals

/-! ### Numbers of numerals -/

namespace Double

section Digits

variable {ds : List Char}

theorem readInteger?_of_digits {s : String} (hs : s.toList = ds) (hne : ds ≠ [])
    (hds : ∀ c ∈ ds, c.isDigit = true) : readInteger? s = some (ofDigits ds : Int) := by
  unfold readInteger?
  rw [hs]
  split
  next => cases hds '-' List.mem_cons_self
  next => cases hds '+' List.mem_cons_self
  next => simp [hne, List.all_eq_true.mpr hds]

theorem readInteger?_of_minus {s : String} (hs : s.toList = '-' :: ds) (hne : ds ≠ [])
    (hds : ∀ c ∈ ds, c.isDigit = true) : readInteger? s = some (-(ofDigits ds : Int)) := by
  unfold readInteger?
  rw [hs]
  simp [hne, List.all_eq_true.mpr hds]

@[simp] theorem readInteger?_numeral (n : Int) : readInteger? n.repr = some n := by
  cases n with
  | ofNat n =>
    rw [Int.ofNat_eq_natCast, readInteger?_of_digits (toList_repr_nat n) Nat.toDigits_ne_nil
      fun _ => isDigit_of_mem_toDigits, ofDigits_toDigits]
  | negSucc n =>
    rw [readInteger?_of_minus (toList_repr_negSucc n) Nat.toDigits_ne_nil
      fun _ => isDigit_of_mem_toDigits, ofDigits_toDigits]
    rfl

/-- Digits alone are none of the names of infinity and NaN, and have neither point nor exponent. -/
theorem readUnsigned?_of_digits (hne : ds ≠ []) (hds : ∀ c ∈ ds, c.isDigit = true) :
    readUnsigned? ds = some (nearest ⟨ofDigits ds, 0⟩) := by
  have hlower : ds.map Char.toLower = ds := by
    rw [List.map_congr_left fun c hc => toLower_of_isDigit (hds c hc), List.map_id']
  have hname (name : String) (h : ∃ c ∈ name.toList, c.isDigit = false) :
      String.ofList ds ≠ name := by
    rintro rfl
    obtain ⟨c, hc, hdigit⟩ := h
    rw [String.toList_ofList] at hc
    cases hdigit.symm.trans (hds c hc)
  have hend : Stops Char.isDigit [] := by simp [Stops]
  obtain ⟨htake, hdrop⟩ := takeWhile_append_of_stops hds hend
  rw [List.append_nil] at htake hdrop
  have hdecimal : readDecimal? ds = some ⟨ofDigits ds, 0⟩ := by
    simp [readDecimal?, htake, hdrop, hne, readExponent?]
  have hinf := hname "inf" ⟨'i', by decide, by decide⟩
  have hinfinity := hname "infinity" ⟨'i', by decide, by decide⟩
  have hnan := hname "nan" ⟨'n', by decide, by decide⟩
  unfold readUnsigned?
  simp only [hlower, hinf, hinfinity, hnan, hdecimal, or_self, if_false, Option.map_some]

theorem nearest_nat {n : Nat} (hpos : 0 < n) (h : n ≤ Word.greatestUnsigned) :
    nearest ⟨n, 0⟩ = Float.ofInt n := by
  have hcount : digitCount n ≤ 20 := by
    have hn : n < 10 ^ 20 := Nat.lt_of_le_of_lt h (by decide)
    unfold digitCount
    rw [Nat.toString_eq_repr, ← String.length_toList, Nat.toList_repr]
    exact (Nat.length_toDigits_le_iff (by decide) (by decide)).mpr hn
  unfold nearest
  dsimp only
  rw [if_neg hpos.ne', if_neg (by omega), if_neg (by omega), if_neg (by omega)]
  rfl

theorem read?_numeral {n : Nat} (hpos : 0 < n) (h : n ≤ Word.greatestUnsigned) :
    read? (n : Int).repr = some (Float.ofInt n) := by
  have hdigits := readUnsigned?_of_digits (Nat.toDigits_ne_nil (b := 10) (n := n))
    fun _ => isDigit_of_mem_toDigits
  rw [ofDigits_toDigits, nearest_nat hpos h] at hdigits
  unfold read?
  rw [toList_repr_nat]
  split
  next hcs => cases isDigit_of_mem_toDigits (hcs ▸ List.mem_cons_self)
  next hcs => cases isDigit_of_mem_toDigits (hcs ▸ List.mem_cons_self)
  next => exact hdigits

end Digits

end Double

/-! ### Numerals are no dates -/

namespace Calendar

namespace Scanner

theorem tail_suffix_tail {as bs : List Char} (h : as <:+ bs) : as.tail <:+ bs.tail := by
  obtain ⟨front, rfl⟩ := h
  cases front with
  | nil => exact List.suffix_rfl
  | cons c front => exact (List.tail_suffix as).trans (List.suffix_append front as)

/-- A number takes at least one character. -/
theorem suffix_of_digits {width : Option Nat} {cs rest : List Char} {n : Nat}
    (h : digits width cs = some (n, rest)) : rest <:+ cs.tail := by
  obtain ⟨taken, htaken⟩ : ∃ taken, digits width cs =
      if taken.isEmpty then none else some (Double.ofDigits taken, cs.drop taken.length) :=
    ⟨_, rfl⟩
  rw [htaken] at h
  split at h
  next => cases h
  next hne =>
    cases h
    rw [List.isEmpty_iff, ← List.length_eq_zero_iff] at hne
    rw [← List.drop_one]
    exact List.drop_suffix_drop_left cs (by omega)

theorem suffix_of_year {cs rest : List Char} {y : Int} (h : year cs = some (y, rest)) :
    rest <:+ cs.tail := by
  have hnumber {width : Option Nat} {value : Nat → Int} {ds : List Char}
      (h : (do return value (← digits width) : Text.Scanner Int) ds = some (y, rest)) :
      rest <:+ ds.tail := by
    obtain ⟨_, _, hdigits, h⟩ := exists_of_bind h
    cases h
    exact suffix_of_digits hdigits
  have hblanks : blanks cs = some ((), Text.dropBlanks cs) := rfl
  apply List.IsSuffix.trans _ (tail_suffix_tail (List.dropWhile_suffix Text.isBlank))
  unfold year at h
  rw [bind_of_eq hblanks, bind_of_eq (p := get) rfl] at h
  revert h
  change _ → rest <:+ (Text.dropBlanks cs).tail
  generalize Text.dropBlanks cs = ds
  split
  next later =>
    intro h
    rw [bind_of_eq (p := set later) rfl] at h
    exact (hnumber h).trans (List.tail_suffix later)
  next later =>
    intro h
    rw [bind_of_eq (p := set later) rfl] at h
    exact (hnumber h).trans (List.tail_suffix later)
  next =>
    intro h
    exact hnumber h

/-- A dash stands behind the year, and the year is not empty. -/
theorem dash_of_dashedDate {cs rest : List Char} {date : Date}
    (h : dashedDate cs = some (date, rest)) : '-' ∈ cs.tail := by
  obtain ⟨_, _, hyear, h⟩ := exists_of_bind h
  obtain ⟨_, _, hdash, _⟩ := exists_of_bind h
  cases eq_cons_of_char hdash
  exact (suffix_of_year hyear).mem List.mem_cons_self

/-- All layouts start with a date. -/
theorem dash_of_layout {layout : Text.Scanner (Option Instant)} {cs : List Char}
    {x : Option Instant} (hlayout : layout ∈ layouts) (h : layout cs = some (x, [])) :
    '-' ∈ cs.tail := by
  simp only [layouts, List.mem_cons, List.not_mem_nil, or_false] at hlayout
  rcases hlayout with rfl | rfl | rfl | rfl
  · obtain ⟨_, _, _, _, _, hdate, _⟩ := exists_of_internet h
    exact dash_of_dashedDate hdate
  · obtain ⟨_, _, _, _, hdate, _⟩ := exists_of_dateAndTime h
    exact dash_of_dashedDate hdate
  · obtain ⟨_, _, _, _, hdate, _⟩ := exists_of_dateAndTime h
    exact dash_of_dashedDate hdate
  · obtain ⟨_, hdate⟩ := exists_of_dateAlone h
    exact dash_of_dashedDate hdate

end Scanner

namespace Instant

/-- Without a dash behind its first character a text is no instant. -/
theorem ofText?_eq_none {s : String} (h : '-' ∉ (Text.trim s).toList.tail) : ofText? s = none := by
  rw [ofText?_eq_findSome?, List.findSome?_eq_none_iff]
  intro layout hlayout
  rw [Option.eq_none_iff_forall_ne_some]
  intro t ht
  rw [Text.toList_trim] at h
  exact h (Scanner.dash_of_layout hlayout (ofLayout?_eq_some_iff.mp ht))

@[simp] theorem ofText?_numeral (n : Int) : ofText? n.repr = none := by
  apply ofText?_eq_none
  rw [trim_numeral]
  intro hdash
  cases isDigit_of_mem_tail_numeral hdash

end Instant

end Calendar

/-! ### Tagged values -/

namespace Param

variable {field : String} {n : Int}

/-- What a value becomes that is given with a tag. -/
def given (field : String) (tag : Tag) (v : Json) : Except CompileError Param :=
  ofLiteral field (.typed v (some tag))

/-- Two values given with a tag become the same parameter, or neither can be read as the tag
says. -/
def Alike (field : String) (tag : Tag) (v w : Json) : Prop :=
  (∃ p, given field tag v = .ok p ∧ given field tag w = .ok p) ∨
    (given field tag v = .error (.invalidLiteral field tag v) ∧
      given field tag w = .error (.invalidLiteral field tag w))

theorem given_eq (field : String) (tag : Tag) {v : Json} (hv : v ≠ .null) :
    given field tag v = match ofTagged? tag v with
      | some p => .ok p
      | none => .error (.invalidLiteral field tag v) := by
  cases v with
  | null => exact absurd rfl hv
  | bool | number | text | list | record => rfl

theorem alike_of_eq {tag : Tag} {v w : Json} (hv : v ≠ .null) (hw : w ≠ .null)
    (h : ofTagged? tag v = ofTagged? tag w) : Alike field tag v w := by
  unfold Alike
  rw [given_eq field tag hv, given_eq field tag hw, h]
  cases ofTagged? tag w with
  | none => exact .inr ⟨rfl, rfl⟩
  | some p => exact .inl ⟨p, rfl, rfl⟩

/-! ### Blanks around a text -/

/-- Only as text is a text read with the blanks around it. -/
theorem ofTagged?_text_of_trim {tag : Tag} (htag : tag ≠ .string) {s t : String}
    (h : Text.trim s = Text.trim t) : ofTagged? tag (.text s) = ofTagged? tag (.text t) := by
  cases tag with
  | string => exact absurd rfl htag
  | integer => simp [ofTagged?, integerOfJson?, h]
  | number => simp [ofTagged?, numberOfJson?, h]
  | boolean => simp [ofTagged?, booleanOfJson?, booleanOfName?, h]
  | date | timestamp => simp [ofTagged?, timestampOfJson?, Calendar.Instant.ofText?, h]

/-! ### Integers and their numerals -/

theorem integerOfText?_numeral (n : Int) :
    integerOfText? n.repr = if Word.IsSigned n then some n else none := by
  simp [integerOfText?, Option.filter]

theorem numeral_inj {m n : Int} : m.repr = n.repr ↔ m = n := by
  constructor
  · intro h
    have hread := congrArg Double.readInteger? h
    simpa using hread
  · intro h
    rw [h]

theorem booleanOfName?_numeral (n : Int) : booleanOfName? n.repr =
    if n = 1 then some true else if n = 0 then some false else none := by
  have hname (name : String) (h : Double.readInteger? name = none) : n.repr ≠ name := by
    rintro rfl
    simp at h
  have htrue := hname "true" (by decide)
  have hfalse := hname "false" (by decide)
  have hone : n.repr = "1" ↔ n = 1 := numeral_inj (n := 1)
  have hzero : n.repr = "0" ↔ n = 0 := numeral_inj (n := 0)
  simp [booleanOfName?, htrue, hfalse, hone, hzero]

theorem booleanOfJson?_int (n : Int) : booleanOfJson? (.number (.int n)) =
    (if n = 1 then some true else if n = 0 then some false else none).map bool := by
  by_cases hone : n = 1
  · simp [hone, booleanOfJson?]
  by_cases hzero : n = 0
  · simp [hzero, booleanOfJson?]
  rw [if_neg hone, if_neg hzero]
  unfold booleanOfJson?
  split <;> simp_all

/-- An integer and its numeral are read alike under every tag. -/
theorem ofTagged?_numeral (h : Word.Fits n) (tag : Tag) :
    ofTagged? tag (.text n.repr) = ofTagged? tag (.number (.int n)) := by
  cases tag with
  | string => rfl
  | integer =>
    simp only [ofTagged?, integerOfJson?, trim_numeral, integerOfText?_numeral]
    split <;> rfl
  | number =>
    simp only [ofTagged?, numberOfJson?, trim_numeral, integerOfText?_numeral]
    rcases h.isSigned_or with hsigned | ⟨m, rfl, hlow, hhigh⟩
    · simp [hsigned]
    · have hsigned := Word.not_isSigned_of_lt (Int.ofNat_lt.mpr hlow)
      simp [hsigned, Double.read?_numeral (Nat.lt_of_le_of_lt (Nat.zero_le _) hlow) hhigh]
  | boolean =>
    simp only [ofTagged?, booleanOfJson?_int]
    simp only [booleanOfJson?, booleanOfName?_numeral]
  | date | timestamp => simp [ofTagged?, timestampOfJson?]

theorem ofTagged?_signed (h : Word.IsSigned n) :
    ofTagged? .integer (.number (.int n)) = some (integer n) ∧
      ofTagged? .number (.number (.int n)) = some (integer n) := by
  simp [ofTagged?, integerOfJson?, numberOfJson?, h]

theorem ofTagged?_unsigned (h : ¬Word.IsSigned n) :
    ofTagged? .integer (.number (.int n)) = none ∧
      ofTagged? .number (.number (.int n)) = some (real (Float.ofInt n)) := by
  simp [ofTagged?, integerOfJson?, numberOfJson?, h]

theorem bare_int (field : String) (n : Int) : ofLiteral field (.bare (.number (.int n))) =
    if Word.IsSigned n then .ok (integer n)
    else .error (.invalidLiteral field .integer (.number (.int n))) := by
  change given field .integer (.number (.int n)) = _
  rw [given_eq _ _ (by simp)]
  by_cases h : Word.IsSigned n
  · simp [ofTagged?_signed h, h]
  · simp [ofTagged?_unsigned h, h]

/-- An integer with a tag becomes what its numeral becomes, blanks around it or not, unless it is
taken as text. The signed integers become themselves; above them only numbers are left, which are
the nearest doubles. -/
theorem integer_alike_numeral (field : String) {n : Int} (h : Word.Fits n) :
    (∀ tag, Alike field tag (.number (.int n)) (.text (toString n))) ∧
    (∀ tag, tag ≠ .string → ∀ before after,
      Text.allBlank before = true → Text.allBlank after = true →
        Alike field tag (.text (toString n)) (.text (before ++ toString n ++ after))) ∧
    (Word.IsSigned n →
      ofLiteral field (.bare (.number (.int n))) = .ok (.integer n) ∧
      ∀ v ∈ [Json.number (.int n), .text (toString n)],
        given field .integer v = .ok (.integer n) ∧ given field .number v = .ok (.integer n)) ∧
    ((Word.greatestSigned : Int) < n →
      ∀ v ∈ [Json.number (.int n), .text (toString n)],
        given field .integer v = .error (.invalidLiteral field .integer v) ∧
        given field .number v = .ok (.real (Float.ofInt n))) := by
  have hgiven : ∀ tag, ∀ v ∈ [Json.number (.int n), .text (toString n)],
      given field tag v = match ofTagged? tag (.number (.int n)) with
        | some p => .ok p
        | none => .error (.invalidLiteral field tag v) := by
    intro tag v hv
    simp only [List.mem_cons, List.not_mem_nil, or_false] at hv
    rcases hv with rfl | rfl
    · rw [given_eq _ _ (by simp)]
    · rw [given_eq _ _ (by simp), Int.toString_eq_repr, ofTagged?_numeral h]
  refine ⟨fun tag => ?_, fun tag htag before after hbefore hafter => ?_, fun hsigned => ?_,
    fun habove => ?_⟩
  · exact alike_of_eq (by simp) (by simp) (ofTagged?_numeral h tag).symm
  · exact alike_of_eq (by simp) (by simp)
      (ofTagged?_text_of_trim htag (trim_framed hbefore hafter (toString n)).symm)
  · obtain ⟨hinteger, hnumber⟩ := ofTagged?_signed hsigned
    refine ⟨by rw [bare_int, if_pos hsigned], fun v hv => ?_⟩
    rw [hgiven _ v hv, hgiven _ v hv, hinteger, hnumber]
    exact ⟨rfl, rfl⟩
  · obtain ⟨hinteger, hnumber⟩ := ofTagged?_unsigned (Word.not_isSigned_of_lt habove)
    intro v hv
    rw [hgiven _ v hv, hgiven _ v hv, hinteger, hnumber]
    exact ⟨rfl, rfl⟩

/-- On both sides of the greatest signed integer, and with a tab and a space around the numeral. -/
theorem integer_alike_numeral_boundary :
    given "total" .integer (.text "9223372036854775807") = .ok (.integer 9223372036854775807) ∧
      given "total" .number (.text "9223372036854775808") =
        .ok (.real (Float.ofInt 9223372036854775808)) ∧
      Alike "total" .integer (.text "9223372036854775808") (.text "\t9223372036854775808 ") := by
  have hbelow := integer_alike_numeral "total" (n := 9223372036854775807) (by decide)
  have habove := integer_alike_numeral "total" (n := 9223372036854775808) (by decide)
  refine ⟨?_, ?_, ?_⟩
  · exact ((hbelow.2.2.1 (by decide)).2 (.text (toString (9223372036854775807 : Int)))
      (by simp)).1
  · exact (habove.2.2.2 (by decide) (.text (toString (9223372036854775808 : Int))) (by simp)).2
  · exact habove.2.1 .integer (by decide) "\t" " " (by decide) (by decide)

/-! ### Bare scalars -/

/-- The parameter that suits a scalar. -/
inductive Suits : Json → Param → Prop where
  | null : Suits .null .null
  | bool (b : Bool) : Suits (.bool b) (.bool b)
  | integer {n : Int} (h : Word.IsSigned n) : Suits (.number (.int n)) (.integer n)
  | real (x : Float) : Suits (.number (.float x)) (.real x)
  | text (s : String) : Suits (.text s) (.text s)

theorem bare_eq_ok_iff {v : Json} {p : Param} :
    ofLiteral field (.bare v) = .ok p ↔ Suits v p := by
  constructor
  · intro h
    cases v with
    | null => cases h; exact .null
    | bool b => cases h; exact .bool b
    | number n =>
      cases n with
      | int n =>
        rw [bare_int] at h
        split at h
        next hsigned => cases h; exact .integer hsigned
        next => cases h
      | float x => cases h; exact .real x
    | text s => cases h; exact .text s
    | list | record => cases h
  · intro h
    cases h with
    | null | bool | real | text => rfl
    | integer hsigned => rw [bare_int, if_pos hsigned]

/-- A bare scalar becomes the parameter that suits it, unless it is an integer above the signed
ones: the tag that is found for such an integer is one it cannot be read as. -/
theorem bare_binds_iff (field : String) {v : Json} (h : v.IsAtom) :
    ((∃ p, Suits v p ∧ ofLiteral field (.bare v) = .ok p) ↔
      ∀ n : Int, v = .number (.int n) → n ≤ Word.greatestSigned) ∧
    ∀ n : Int, v = .number (.int n) → (Word.greatestSigned : Int) < n →
      ofLiteral field (.bare v) = .error (.invalidLiteral field .integer v) := by
  obtain ⟨hscalar, hfits⟩ := h
  refine ⟨⟨?_, fun hbound => ?_⟩, ?_⟩
  · rintro ⟨p, hp, -⟩ n rfl
    cases hp with
    | integer hsigned => exact hsigned.2
  · have hsuits : ∃ p, Suits v p := by
      rcases hscalar with rfl | ⟨s, rfl⟩ | ⟨n, rfl⟩ | ⟨b, rfl⟩
      · exact ⟨_, .null⟩
      · exact ⟨_, .text s⟩
      · cases n with
        | int n => exact ⟨_, .integer ⟨(hfits n rfl).1, hbound n rfl⟩⟩
        | float x => exact ⟨_, .real x⟩
      · exact ⟨_, .bool b⟩
    obtain ⟨p, hp⟩ := hsuits
    exact ⟨p, hp, bare_eq_ok_iff.mpr hp⟩
  · rintro n rfl habove
    rw [bare_int, if_neg (Word.not_isSigned_of_lt habove)]

/-- The greatest signed integer becomes a parameter. -/
theorem bare_binds_greatestSigned :
    ∃ p, Suits (.number (.int 9223372036854775807)) p ∧
      ofLiteral "total" (.bare (.number (.int 9223372036854775807))) = .ok p := by
  refine (bare_binds_iff "total" (Json.isAtom_int (by decide))).1.mpr fun n hn => ?_
  cases hn
  decide

/-- The integer behind it does not. -/
theorem bare_above_greatestSigned : Json.IsAtom (.number (.int 9223372036854775808)) ∧
    ¬∃ p, ofLiteral "total" (.bare (.number (.int 9223372036854775808))) = .ok p := by
  refine ⟨Json.isAtom_int (by decide), ?_⟩
  rintro ⟨p, hp⟩
  rw [bare_int, if_neg (by decide)] at hp
  cases hp

end Param

end Rollup
