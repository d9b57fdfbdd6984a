import Rollup.Json.Decode
import Rollup.Proofs.Json.Numerals
/-!
Reading back compact texts. Reading stops at what follows a value, so the text of a list or a record
is read element by element; a value is taken back if all its numbers survive.
-/
namespace Rollup.Json

/-! ### Numbers in values -/

mutual

/-- The numbers in a value. -/
def numbers : Json → List Number
  | .number n => [n]
  | .list items => itemsNumbers items
  | .record members => membersNumbers members
  | .null => []
  | .bool _ => []
  | .text _ => []

def itemsNumbers : List Json → List Number
  | [] => []
  | v :: vs => numbers v ++ itemsNumbers vs

def membersNumbers : List (String × Json) → List Number
  | [] => []
  | (_, v) :: ms => numbers v ++ membersNumbers ms

end

theorem itemsNumbers_eq_flatMap (items : List Json) :
    itemsNumbers items = items.flatMap numbers := by
  induction items with
  | nil => rfl
  | cons v vs ih => rw [itemsNumbers, ih, List.flatMap_cons]

theorem membersNumbers_eq_flatMap (members : List (String × Json)) :
    membersNumbers members = members.flatMap fun m => numbers m.2 := by
  induction members with
  | nil => rfl
  | cons m ms ih =>
    obtain ⟨n, v⟩ := m
    rw [membersNumbers, ih, List.flatMap_cons]

theorem mem_numbers_list {items : List Json} {n : Number} :
    n ∈ (list items).numbers ↔ ∃ v ∈ items, n ∈ v.numbers := by
  rw [numbers, itemsNumbers_eq_flatMap, List.mem_flatMap]

theorem mem_numbers_record {members : List (String × Json)} {n : Number} :
    n ∈ (record members).numbers ↔ ∃ m ∈ members, n ∈ m.2.numbers := by
  rw [numbers, membersNumbers_eq_flatMap, List.mem_flatMap]

/-- Settling drops the values of repeated names, and brings in none. -/
theorem mem_numbers_of_settle {v : Json} {n : Number} (h : n ∈ v.settle.numbers) :
    n ∈ v.numbers := by
  induction v using induction with
  | null | bool | number | text => exact h
  | list items ih =>
    rw [settle, settleItems_eq_map, mem_numbers_list] at h
    obtain ⟨_, hmem, hn⟩ := h
    obtain ⟨v, hv, rfl⟩ := List.mem_map.mp hmem
    exact mem_numbers_list.mpr ⟨v, hv, ih v hv hn⟩
  | record members ih =>
    rw [settle, settleMembers_eq_map, mem_numbers_record] at h
    obtain ⟨_, hmem, hn⟩ := h
    obtain ⟨m, hm, rfl⟩ := List.mem_map.mp (mem_of_mem_merge hmem)
    exact mem_numbers_record.mpr ⟨m, hm, ih m hm hn⟩

/-! ### Texts in quotes -/

theorem hexValue_hexDigit {n : Nat} (h : n < 16) : Text.hexValue? (hexDigit n) = some n := by
  have hall : ∀ i : Fin 16, Text.hexValue? (hexDigit i) = some i.val := by decide
  exact hall ⟨n, h⟩

theorem readText_control {c : Char} (h : c.toNat < 0x20) (done rest : List Char) :
    readText ⟨done, true, none⟩ ('\\' :: 'u' :: '0' :: '0' :: hexDigit (c.toNat / 16) ::
      hexDigit (c.toNat % 16) :: rest) = readText ⟨c :: done, true, none⟩ rest := by
  have hunit : hexUnit? '0' '0' (hexDigit (c.toNat / 16)) (hexDigit (c.toNat % 16)) =
      some c.toNat := by
    have hzero : Text.hexValue? '0' = some 0 := by decide
    simp only [hexUnit?, hzero, hexValue_hexDigit (by omega : c.toNat / 16 < 16),
      hexValue_hexDigit (by omega : c.toNat % 16 < 16), Option.bind_eq_bind, Option.bind_some]
    simp only [Option.pure_def, Option.some.injEq]
    omega
  have hpush : TextState.pushUnit ⟨done, true, none⟩ c.toNat = ⟨c :: done, true, none⟩ := by
    unfold TextState.pushUnit
    rw [if_neg (by omega), if_neg (by omega), Char.ofNat_toNat]
    rfl
  rw [readText, hunit]
  simp only [hpush]

theorem readText_escapeChar (c : Char) (done rest : List Char) :
    readText ⟨done, true, none⟩ (escapeChar c ++ rest) = readText ⟨c :: done, true, none⟩ rest := by
  unfold escapeChar
  split_ifs with h₁ h₂ h₃ h₄ h₅ h₆ h₇ h₈
  · subst h₁; simp [readText, escaped?, TextState.push]
  · subst h₂; simp [readText, escaped?, TextState.push]
  · subst h₃; simp [readText, escaped?, TextState.push]
  · subst h₄; simp [readText, escaped?, TextState.push]
  · subst h₅; simp [readText, escaped?, TextState.push]
  · subst h₆; simp [readText, escaped?, TextState.push]
  · subst h₇; simp [readText, escaped?, TextState.push]
  · exact readText_control h₈ done rest
  · simp [readText, h₂, h₈, TextState.push]

/-- The escaped characters of a text are read up to the closing quote. -/
theorem scanText_quote (s : String) (rest : List Char) :
    scanText (s.toList.flatMap escapeChar ++ '"' :: rest) = .whole (.ok s) rest := by
  have hread (cs done : List Char) :
      readText ⟨done, true, none⟩ (cs.flatMap escapeChar ++ '"' :: rest) =
        .whole (.ok (String.ofList (done.reverse ++ cs))) rest := by
    induction cs generalizing done with
    | nil => simp [readText, TextState.finish]
    | cons c cs ih =>
      rw [List.flatMap_cons, List.append_assoc, readText_escapeChar, ih]
      simp
  have h := hread s.toList []
  rw [List.reverse_nil, List.nil_append, String.ofList_toList] at h
  exact h

/-! ### Lists and records -/

theorem toList_quote (s : String) :
    (quote s).toList = '"' :: s.toList.flatMap escapeChar ++ ['"'] :=
  String.toList_ofList

theorem readValue_skipSpace (fuel : Nat) (cs : List Char) :
    readValue fuel (skipSpace cs) = readValue fuel cs := by
  cases fuel with
  | zero => rfl
  | succ fuel => rw [readValue, readValue, skipSpace_skipSpace]

theorem readItem_skipSpace (fuel : Nat) (cs : List Char) :
    readItem fuel (skipSpace cs) = readItem fuel cs := by
  cases fuel with
  | zero => rfl
  | succ fuel => rw [readItem, readItem, readValue_skipSpace]

/-- A value that was read started with a character other than a closing bracket. -/
theorem start_of_readValue {fuel : Nat} {cs r : List Char} {d : Draft}
    (h : readValue fuel cs = (d, some r)) : ∃ c ds, skipSpace cs = c :: ds ∧ c ≠ ']' := by
  cases fuel with
  | zero => cases h
  | succ fuel =>
    cases hskip : skipSpace cs with
    | nil =>
      rw [readValue, hskip] at h
      cases h
    | cons c ds =>
      refine ⟨c, ds, rfl, ?_⟩
      rintro rfl
      rw [readValue, hskip] at h
      cases h

theorem readItem_last {fuel : Nat} {cs r rest : List Char} {d : Draft}
    (h : readValue fuel cs = (d, some r)) (hr : skipSpace r = ']' :: rest) :
    readItem (fuel + 1) cs = ⟨[d], .closed, some rest⟩ := by
  rw [readItem, h]
  simp only [hr]
  rfl

theorem readItem_comma {fuel : Nat} {cs r next : List Char} {d : Draft} {c : Char} {ds : List Char}
    (h : readValue fuel cs = (d, some r)) (hr : skipSpace r = ',' :: next)
    (hnext : skipSpace next = c :: ds) (hc : c ≠ ']') :
    readItem (fuel + 1) cs = .cons d (readItem fuel next) := by
  rw [readItem, h]
  simp only [hr]
  congr 1
  split
  next heq => rw [hnext] at heq; cases heq
  next heq => rw [hnext] at heq; exact absurd (List.cons.inj heq).1 hc
  next => exact readItem_skipSpace fuel next

theorem start_of_readItem {fuel : Nat} {cs rest : List Char} {ds : List Draft} {e : Ending}
    (h : readItem fuel cs = ⟨ds, e, some rest⟩) : ∃ c cs', skipSpace cs = c :: cs' ∧ c ≠ ']' := by
  cases fuel with
  | zero => cases h
  | succ fuel =>
    rw [readItem] at h
    split at h
    next => cases h
    next d r hread => exact start_of_readValue hread

/-- The text between the brackets of a list. -/
def itemsText (items : List Json) : List Char := (",".intercalate (compactItems items)).toList

theorem itemsText_singleton (v : Json) : itemsText [v] = v.compact.toList := by
  unfold itemsText
  rw [compactItems, compactItems, String.intercalate_singleton]

theorem itemsText_cons (v w : Json) (vs : List Json) :
    itemsText (v :: w :: vs) = v.compact.toList ++ ',' :: itemsText (w :: vs) := by
  unfold itemsText
  rw [compactItems, compactItems, String.intercalate_cons_cons, String.toList_append,
    String.toList_append, List.append_assoc]
  rfl

theorem readItem_itemsText {items : List Json} (hne : items ≠ [])
    (h : ∀ v ∈ items, Reads v.compact.toList (Draft.ofJson v)) (rest : List Char) (fuel : Nat)
    (hfuel : 2 * (itemsText items).length + 2 ≤ fuel) :
    readItem fuel (itemsText items ++ ']' :: rest) =
      ⟨Draft.ofItems items, .closed, some rest⟩ := by
  obtain ⟨fuel, rfl⟩ := Nat.exists_eq_succ_of_ne_zero (by omega : fuel ≠ 0)
  induction items generalizing fuel with
  | nil => exact absurd rfl hne
  | cons v vs ih =>
    cases vs with
    | nil =>
      rw [itemsText_singleton] at hfuel ⊢
      obtain ⟨gap, hblank, hread⟩ := h v List.mem_cons_self fuel (']' :: rest) (by omega)
        (by simp [Follows])
      exact readItem_last hread (skipSpace_blank hblank _)
    | cons w vs =>
      rw [itemsText_cons, List.length_append, List.length_cons] at hfuel
      obtain ⟨gap, hblank, hread⟩ := h v List.mem_cons_self fuel
        (',' :: (itemsText (w :: vs) ++ ']' :: rest)) (by omega) (by simp [Follows])
      obtain ⟨fuel, rfl⟩ := Nat.exists_eq_succ_of_ne_zero (by omega : fuel ≠ 0)
      have hrest := ih (by simp) (fun x hx => h x (List.mem_cons_of_mem _ hx)) fuel (by omega)
      obtain ⟨c, cs, hstart, hc⟩ := start_of_readItem hrest
      rw [itemsText_cons, List.append_assoc, List.cons_append,
        readItem_comma hread (skipSpace_blank hblank _) hstart hc, hrest]
      rfl

/-- The text of a member behind the opening quote of its name. -/
def memberText (m : String × Json) : List Char :=
  m.1.toList.flatMap escapeChar ++ '"' :: ':' :: m.2.compact.toList

/-- What follows a member and the blanks behind it. -/
def moreMembers (fuel : Nat) : List Char → Body (Spelling × Draft)
  | '}' :: rest => .closed rest
  | ',' :: r =>
    match skipSpace r with
    | '"' :: r => readMember fuel true r
    | r => .broken true r
  | r => .broken false r

theorem readMember_memberText {fuel : Nat} {m : String × Json} {afterComma : Bool}
    {rest : List Char} (h : Reads m.2.compact.toList (Draft.ofJson m.2))
    (hfuel : 2 * (memberText m).length ≤ fuel) (hfollows : Follows rest) :
    readMember (fuel + 1) afterComma (memberText m ++ rest) =
      .cons (.ok m.1, Draft.ofJson m.2) (moreMembers fuel (skipSpace rest)) := by
  have hlength : (memberText m).length = (m.1.toList.flatMap escapeChar).length + 1 + 1 +
      m.2.compact.toList.length := by
    simp only [memberText, List.length_append, List.length_cons]
    omega
  obtain ⟨gap, hblank, hread⟩ := h fuel rest (by omega) hfollows
  have hcolon : skipSpace (':' :: (m.2.compact.toList ++ rest)) =
      ':' :: (m.2.compact.toList ++ rest) := rfl
  unfold memberText
  rw [List.append_assoc, List.cons_append, List.cons_append, readMember, scanText_quote]
  simp only [hcolon, hread, skipSpace_blank hblank]
  rfl

/-- The text between the brackets of a record, behind the first opening quote. -/
def membersText : List (String × Json) → List Char
  | [] => []
  | [m] => memberText m
  | m :: ms => memberText m ++ ',' :: '"' :: membersText ms

theorem membersText_cons (m m' : String × Json) (ms : List (String × Json)) :
    membersText (m :: m' :: ms) = memberText m ++ ',' :: '"' :: membersText (m' :: ms) := rfl

theorem toList_intercalate_members (m : String × Json) (ms : List (String × Json)) :
    (",".intercalate (compactMembers (m :: ms))).toList = '"' :: membersText (m :: ms) := by
  induction ms generalizing m with
  | nil =>
    obtain ⟨n, v⟩ := m
    simp only [compactMembers, String.intercalate_singleton, String.toList_append, toList_quote,
      membersText, memberText]
    simp
  | cons m' ms ih =>
    obtain ⟨n, v⟩ := m
    obtain ⟨n', v'⟩ := m'
    have ih := ih (n', v')
    rw [compactMembers] at ih ⊢
    rw [compactMembers, String.intercalate_cons_cons, String.toList_append, ih]
    simp [toList_quote, membersText, memberText]

theorem readMember_membersText {members : List (String × Json)} (hne : members ≠ [])
    (h : ∀ m ∈ members, Reads m.2.compact.toList (Draft.ofJson m.2)) (rest : List Char)
    (afterComma : Bool) (fuel : Nat) (hfuel : 2 * (membersText members).length + 1 ≤ fuel) :
    readMember fuel afterComma (membersText members ++ '}' :: rest) =
      ⟨Draft.ofMembers members, .closed, some rest⟩ := by
  obtain ⟨fuel, rfl⟩ := Nat.exists_eq_succ_of_ne_zero (by omega : fuel ≠ 0)
  induction members generalizing fuel afterComma with
  | nil => exact absurd rfl hne
  | cons m ms ih =>
    have hm := h m List.mem_cons_self
    cases ms with
    | nil =>
      rw [membersText] at hfuel ⊢
      exact readMember_memberText hm (by omega) (by simp [Follows])
    | cons m' ms =>
      rw [membersText_cons, List.length_append, List.length_cons, List.length_cons] at hfuel
      rw [membersText_cons, List.append_assoc, List.cons_append, List.cons_append,
        readMember_memberText hm (by omega) (by simp [Follows])]
      obtain ⟨fuel, rfl⟩ := Nat.exists_eq_succ_of_ne_zero (by omega : fuel ≠ 0)
      have hrest := ih (by simp) (fun x hx => h x (List.mem_cons_of_mem _ hx)) true fuel (by omega)
      change Body.cons _ (readMember (fuel + 1) true _) = _
      rw [hrest]
      rfl

/-! ### Whole values -/

theorem readValue_list {fuel : Nat} {items : List Json} (rest : List Char)
    (h : ∀ v ∈ items, Reads v.compact.toList (Draft.ofJson v))
    (hfuel : 2 * (itemsText items).length + 2 ≤ fuel) :
    readValue (fuel + 1) ('[' :: (itemsText items ++ ']' :: rest)) =
      (Draft.ofJson (.list items), some rest) := by
  cases items with
  | nil => rfl
  | cons v vs =>
    have hread := readItem_itemsText (by simp) h rest fuel hfuel
    obtain ⟨c, cs, hstart, hc⟩ := start_of_readItem hread
    rw [← readItem_skipSpace, hstart] at hread
    have hbracket (cs : List Char) : skipSpace ('[' :: cs) = '[' :: cs := rfl
    rw [readValue]
    simp only [hbracket, hstart]
    split
    next heq => exact absurd (List.cons.inj heq).1 hc
    next heq => cases heq
    next =>
      rw [hread]
      rfl

theorem readValue_record {fuel : Nat} {members : List (String × Json)} (hne : members ≠ [])
    (rest : List Char) (h : ∀ m ∈ members, Reads m.2.compact.toList (Draft.ofJson m.2))
    (hfuel : 2 * (membersText members).length + 1 ≤ fuel) :
    readValue (fuel + 1) ('{' :: '"' :: (membersText members ++ '}' :: rest)) =
      (Draft.ofJson (.record members), some rest) := by
  have hread := readMember_membersText hne h rest false fuel hfuel
  rw [readValue]
  change (_, (readMember fuel false (membersText members ++ '}' :: rest)).rest) = _
  rw [hread]
  rfl

/-- The compact text of a value is read as the value's own draft. -/
theorem reads_compact (v : Json) (h : ∀ n ∈ v.numbers, n.Survives) :
    Reads v.compact.toList (Draft.ofJson v) := by
  induction v using induction with
  | number n => exact (h n (by simp [numbers])).reads
  | null =>
    intro fuel rest hfuel _
    obtain ⟨fuel, rfl⟩ := Nat.exists_eq_succ_of_ne_zero (by omega : fuel ≠ 0)
    exact ⟨[], rfl, rfl⟩
  | bool b =>
    intro fuel rest hfuel _
    obtain ⟨fuel, rfl⟩ := Nat.exists_eq_succ_of_ne_zero (by omega : fuel ≠ 0)
    cases b <;> exact ⟨[], rfl, rfl⟩
  | text s =>
    intro fuel rest hfuel _
    obtain ⟨fuel, rfl⟩ := Nat.exists_eq_succ_of_ne_zero (by omega : fuel ≠ 0)
    refine ⟨[], rfl, ?_⟩
    have hquote (cs : List Char) : skipSpace ('"' :: cs) = '"' :: cs := rfl
    rw [compact, toList_quote, List.cons_append, List.cons_append, List.append_assoc,
      List.singleton_append, readValue]
    simp only [hquote, scanText_quote]
    rfl
  | list items ih =>
    have hitems : ∀ v ∈ items, Reads v.compact.toList (Draft.ofJson v) := fun v hv =>
      ih v hv fun n hn => h n (mem_numbers_list.mpr ⟨v, hv, hn⟩)
    have htext : (Json.list items).compact.toList = '[' :: (itemsText items ++ [']']) := by
      simp [compact, itemsText]
    intro fuel rest hfuel _
    rw [htext] at hfuel ⊢
    simp only [List.length_cons, List.length_append] at hfuel
    obtain ⟨fuel, rfl⟩ := Nat.exists_eq_succ_of_ne_zero (by omega : fuel ≠ 0)
    refine ⟨[], rfl, ?_⟩
    rw [List.cons_append, List.append_assoc, List.singleton_append]
    exact readValue_list rest hitems (by omega)
  | record members ih =>
    have hmembers : ∀ m ∈ members, Reads m.2.compact.toList (Draft.ofJson m.2) := fun m hm =>
      ih m hm fun n hn => h n (mem_numbers_record.mpr ⟨m, hm, hn⟩)
    intro fuel rest hfuel _
    cases members with
    | nil =>
      obtain ⟨fuel, rfl⟩ := Nat.exists_eq_succ_of_ne_zero (by omega : fuel ≠ 0)
      exact ⟨[], rfl, rfl⟩
    | cons m ms =>
      have htext : (Json.record (m :: ms)).compact.toList =
          '{' :: '"' :: (membersText (m :: ms) ++ ['}']) := by
        rw [compact, String.toList_append, String.toList_append, toList_intercalate_members]
        rfl
      rw [htext] at hfuel ⊢
      simp only [List.length_cons, List.length_append] at hfuel
      obtain ⟨fuel, rfl⟩ := Nat.exists_eq_succ_of_ne_zero (by omega : fuel ≠ 0)
      refine ⟨[], rfl, ?_⟩
      rw [List.cons_append, List.cons_append, List.append_assoc, List.singleton_append]
      exact readValue_record (by simp) rest hmembers (by omega)

theorem readDraft_compact {v : Json} (h : ∀ n ∈ v.numbers, n.Survives) :
    readDraft v.compact = (Draft.ofJson v, true) := by
  obtain ⟨gap, hblank, hread⟩ := reads_compact v h (2 * v.compact.toList.length + 2) []
    (by omega) (by simp [Follows])
  rw [List.append_nil, List.append_nil] at hread
  unfold readDraft
  dsimp only
  rw [hread]
  simp only [Prod.mk.injEq, true_and]
  exact List.isEmpty_iff.mpr hblank

theorem decodeLeading_compact {α : Type} (decode : Decoder α) {v : Json}
    (h : ∀ n ∈ v.numbers, n.Survives) :
    decodeLeading decode v.compact = decode .text (Draft.ofJson v) := by
  unfold decodeLeading
  rw [readDraft_compact h]

end Rollup.Json
