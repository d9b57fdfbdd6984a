/-!
Blank characters and trimming. A character is blank when it has the Unicode property
White_Space: twenty-five code points, among them the no-break space and the next-line control,
but neither the zero-width space nor the byte order mark.
-/
namespace Rollup.Text

/-- The code points with the property White_Space, as inclusive ranges. -/
def blankRanges : List (Nat × Nat) :=
  [(0x9, 0xD), (0x20, 0x20), (0x85, 0x85), (0xA0, 0xA0), (0x1680, 0x1680), (0x2000, 0x200A),
   (0x2028, 0x2029), (0x202F, 0x202F), (0x205F, 0x205F), (0x3000, 0x3000)]

/-- Membership in the White_Space ranges. -/
def isBlank (c : Char) : Bool :=
  blankRanges.any fun r => decide (r.1 ≤ c.toNat) && decide (c.toNat ≤ r.2)

/-- The characters after the leading blanks. -/
def dropBlanks (cs : List Char) : List Char := cs.dropWhile isBlank

/-- The characters between the leading and the trailing blanks. -/
def trimChars (cs : List Char) : List Char := (dropBlanks (dropBlanks cs).reverse).reverse

/-- The text between its leading and its trailing blanks. -/
def trim (s : String) : String := String.ofList (trimChars s.toList)

@[simp] theorem toList_trim (s : String) : (trim s).toList = trimChars s.toList := by
  simp [trim]

theorem mem_of_mem_trim {s : String} {c : Char} (h : c ∈ (trim s).toList) : c ∈ s.toList := by
  simp only [toList_trim, trimChars, dropBlanks, List.mem_reverse] at h
  exact (List.dropWhile_sublist _).mem (List.mem_reverse.mp ((List.dropWhile_sublist _).mem h))

/-- A text with nothing but blanks in it, the empty one included. -/
def allBlank (s : String) : Bool := s.toList.all isBlank

theorem dropBlanks_eq_nil_iff (cs : List Char) : dropBlanks cs = [] ↔ cs.all isBlank = true := by
  induction cs with
  | nil => simp [dropBlanks]
  | cons c cs ih =>
    by_cases h : isBlank c = true
    · rw [dropBlanks, List.dropWhile_cons_of_pos h, List.all_cons, h, Bool.true_and]
      exact ih
    · simp [dropBlanks, h]

/-- Dropping leading blanks stops at a character that is not blank. -/
theorem head_dropBlanks (cs : List Char) :
    ∀ c ∈ (dropBlanks cs).head?, isBlank c = false := by
  induction cs with
  | nil => simp [dropBlanks]
  | cons c cs ih =>
    by_cases h : isBlank c = true
    · simpa [dropBlanks, List.dropWhile_cons, h] using ih
    · simp [dropBlanks, h]

theorem dropBlanks_of_head {cs : List Char} (h : ∀ c ∈ cs.head?, isBlank c = false) :
    dropBlanks cs = cs := by
  cases cs with
  | nil => rfl
  | cons c cs => exact List.dropWhile_cons_of_neg (by simp [h c rfl])

theorem dropBlanks_of_not_blank {cs : List Char} (h : ∀ c ∈ cs, isBlank c = false) :
    dropBlanks cs = cs :=
  dropBlanks_of_head fun c hc => h c (List.mem_of_mem_head? hc)

theorem trim_of_not_blank {s : String} (h : ∀ c ∈ s.toList, isBlank c = false) : trim s = s := by
  unfold trim trimChars
  rw [dropBlanks_of_not_blank h, dropBlanks_of_not_blank (by simpa using h), List.reverse_reverse,
    String.ofList_toList]

/-- Trimming leaves nothing exactly of the blank texts. -/
theorem trimChars_eq_nil_iff (cs : List Char) : trimChars cs = [] ↔ cs.all isBlank = true := by
  simp only [trimChars, List.reverse_eq_nil_iff, dropBlanks_eq_nil_iff, List.all_reverse]
  constructor
  · intro h
    rw [← dropBlanks_eq_nil_iff]
    rcases hd : dropBlanks cs with _ | ⟨c, r⟩
    · rfl
    · have hc := head_dropBlanks cs c (by simp [hd])
      simp [hd, hc] at h
  · intro h
    rw [(dropBlanks_eq_nil_iff cs).2 h]
    rfl

theorem trim_eq_empty_iff (s : String) : trim s = "" ↔ allBlank s = true := by
  rw [← String.toList_inj, toList_trim, String.toList_empty, trimChars_eq_nil_iff]
  rfl

theorem dropBlanks_append {before : List Char} (h : ∀ c ∈ before, isBlank c = true)
    (cs : List Char) : dropBlanks (before ++ cs) = dropBlanks cs :=
  List.dropWhile_append_of_pos h

/-- Blanks around a text make no difference to what is left when it is trimmed. -/
theorem trimChars_framed {before after : List Char} (hbefore : ∀ c ∈ before, isBlank c = true)
    (hafter : ∀ c ∈ after, isBlank c = true) (cs : List Char) :
    trimChars (before ++ cs ++ after) = trimChars cs := by
  have hback (front : List Char) :
      dropBlanks (front ++ after).reverse = dropBlanks front.reverse := by
    rw [List.reverse_append]
    exact dropBlanks_append (by simpa using hafter) _
  unfold trimChars
  rw [List.append_assoc, dropBlanks_append hbefore]
  by_cases hcs : dropBlanks cs = []
  · have hall : ∀ c ∈ cs, isBlank c = true := by simpa [dropBlanks_eq_nil_iff] using hcs
    have hend : dropBlanks after = [] := by simpa [dropBlanks_eq_nil_iff] using hafter
    rw [dropBlanks_append hall, hcs, hend]
  · have hfront : dropBlanks (cs ++ after) = dropBlanks cs ++ after := by
      unfold dropBlanks at hcs ⊢
      rw [List.dropWhile_append]
      simp [hcs]
    rw [hfront, hback]

theorem trim_framed {before after : String} (hbefore : allBlank before = true)
    (hafter : allBlank after = true) (s : String) : trim (before ++ s ++ after) = trim s := by
  unfold trim
  rw [String.toList_append, String.toList_append,
    trimChars_framed (List.all_eq_true.mp hbefore) (List.all_eq_true.mp hafter)]

/-- A text that starts and ends with characters that are not blank has nothing to trim. -/
theorem trimChars_of_ends {first last : List Char} (hfirst : first ≠ []) (hlast : last ≠ [])
    (hfirst' : ∀ c ∈ first, isBlank c = false) (hlast' : ∀ c ∈ last, isBlank c = false)
    (middle : List Char) : trimChars (first ++ middle ++ last) = first ++ middle ++ last := by
  have hend {front back : List Char} (hfront : front ≠ []) (h : ∀ c ∈ front, isBlank c = false) :
      dropBlanks (front ++ back) = front ++ back := by
    obtain ⟨c, front, rfl⟩ := List.exists_cons_of_ne_nil hfront
    exact dropBlanks_of_head (by simpa using h c List.mem_cons_self)
  unfold trimChars
  rw [List.append_assoc, hend hfirst hfirst', ← List.append_assoc, List.reverse_append,
    hend (by simpa using hlast) (by simpa using hlast'), List.reverse_append]
  simp

example : (blankRanges.map fun r => r.2 + 1 - r.1).sum = 25 := by decide

end Rollup.Text
