import Rollup.Store.Cell
import Rollup.Proofs.Calendar.WholeSeconds
/-!
Texts and their bytes. A database compares texts byte by byte, and that is the order of their
characters: of two characters the smaller one has the smaller bytes, however many there are. So the
texts that instants are bound as are in the order of time, as long as years have four digits.
-/
namespace Rollup.Store

open Calendar (Instant)

/-- The bytes of a text as a database keeps it. -/
def bytesOf (s : String) : List UInt8 := s.toUTF8.data.toList

theorem bytesOf_eq (s : String) : bytesOf s = s.toList.flatMap String.utf8EncodeChar := by
  unfold bytesOf String.toUTF8
  rw [← String.utf8Encode_toList, List.utf8Encode, List.data_toByteArray]

namespace Cell

theorem compareBytes_append (bytes as bs : List UInt8) :
    compareBytes (bytes ++ as) (bytes ++ bs) = compareBytes as bs := by
  induction bytes with
  | nil => rfl
  | cons b bytes ih =>
    have hself : compare b.toNat b.toNat = .eq := Nat.compare_eq_eq.mpr rfl
    rw [List.cons_append, List.cons_append, compareBytes, hself, ih]
    rfl

theorem compareBytes_swap (as bs : List UInt8) :
    compareBytes bs as = (compareBytes as bs).swap := by
  induction as generalizing bs with
  | nil => cases bs <;> rfl
  | cons a as ih =>
    cases bs with
    | nil => rfl
    | cons b bs => rw [compareBytes, compareBytes, Ordering.swap_then, ← ih, Nat.compare_swap]

/-- A smaller number has a smaller digit at the first place where digits differ. -/
theorem sextet_lt {m n : Nat} (h : m < n) :
    m / 64 < n / 64 ∨ (m / 64 = n / 64 ∧ m % 64 < n % 64) := by
  omega

/-- The bytes of a smaller character are smaller: the first byte tells how many there are, and each
carries the bits above those of the bytes behind it. -/
theorem compareBytes_of_lt {c d : Char} (h : c < d) (as bs : List UInt8) :
    compareBytes (String.utf8EncodeChar c ++ as) (String.utf8EncodeChar d ++ bs) = .lt := by
  have hvalue : c.val.toNat < d.val.toNat := h
  have hbound : d.val.toNat < 1114112 := by
    rcases d.valid with hd | ⟨_, hd⟩
    · exact Nat.lt_trans hd (by decide)
    · exact hd
  unfold String.utf8EncodeChar
  generalize c.val.toNat = m at hvalue
  generalize d.val.toNat = n at hvalue hbound
  -- Which byte differs first, from the last one up.
  have hlow := sextet_lt hvalue
  have hmiddle := fun h => sextet_lt (m := m / 64) (n := n / 64) h
  have hhigh := fun h => sextet_lt (m := m / 64 / 64) (n := n / 64 / 64) h
  simp only [Nat.div_div_eq_div_mul, Nat.reduceMul] at hmiddle hhigh
  -- No byte overflows.
  have htail (k : Nat) : (k % 64 + 128) % 2 ^ 8 = k % 64 + 128 := by omega
  have hlead (k : Nat) : (k % 32 + 192) % 2 ^ 8 = k % 32 + 192 ∧
      (k % 16 + 224) % 2 ^ 8 = k % 16 + 224 := by omega
  have hlead' : (m / 262144 % 8 + 240) % 2 ^ 8 = m / 262144 + 240 ∧
      (n / 262144 % 8 + 240) % 2 ^ 8 = n / 262144 + 240 := by omega
  dsimp only
  split_ifs <;>
    simp only [List.cons_append, compareBytes, Ordering.then_eq_lt, Nat.compare_eq_lt,
      Nat.compare_eq_eq, UInt8.toNat_ofNat', htail, hlead, hlead'] <;> omega

theorem compareBytes_chars (cs ds : List Char) :
    compareBytes (cs.flatMap String.utf8EncodeChar) (ds.flatMap String.utf8EncodeChar) =
      compareOfLessAndEq cs ds := by
  induction cs generalizing ds with
  | nil =>
    cases ds with
    | nil => rfl
    | cons d ds =>
      obtain ⟨b, bs, hb⟩ := List.exists_cons_of_ne_nil (String.utf8EncodeChar_ne_nil (c := d))
      rw [List.flatMap_cons, hb]
      rfl
  | cons c cs ih =>
    cases ds with
    | nil =>
      obtain ⟨b, bs, hb⟩ := List.exists_cons_of_ne_nil (String.utf8EncodeChar_ne_nil (c := c))
      rw [List.flatMap_cons, hb]
      rfl
    | cons d ds =>
      rw [List.flatMap_cons, List.flatMap_cons]
      rcases lt_trichotomy c d with hcd | rfl | hcd
      · rw [compareBytes_of_lt hcd, compareOfLessAndEq,
          if_pos (List.cons_lt_cons_iff.mpr (.inl hcd))]
      · rw [compareBytes_append, ih]
        simp [compareOfLessAndEq]
      · have hlt : ¬c :: cs < d :: ds := by
          rw [List.cons_lt_cons_iff]
          rintro (h | ⟨rfl, _⟩)
          · exact lt_asymm h hcd
          · exact lt_irrefl _ hcd
        have hne : ¬c :: cs = d :: ds := by
          rintro ⟨⟩
          exact lt_irrefl _ hcd
        rw [compareBytes_swap, compareBytes_of_lt hcd, compareOfLessAndEq, if_neg hlt, if_neg hne]
        rfl

/-- The order of texts is that of their bytes. -/
theorem order_text (s t : String) :
    (text s).order (text t) = compareBytes (bytesOf s) (bytesOf t) := by
  rw [bytesOf_eq, bytesOf_eq, compareBytes_chars]
  unfold order compareOfLessAndEq
  simp only [String.lt_iff, String.toList_inj]

theorem compareBytes_lt_iff (s t : String) :
    compareBytes (bytesOf s) (bytesOf t) = .lt ↔ s < t := by
  rw [← order_text]
  exact compareOfLessAndEq_eq_lt

theorem compareBytes_eq_iff (s t : String) :
    compareBytes (bytesOf s) (bytesOf t) = .eq ↔ s = t := by
  rw [← order_text]
  exact compareOfLessAndEq_eq_eq Std.le_refl Std.not_le

theorem compareBytes_gt_iff (s t : String) :
    compareBytes (bytesOf s) (bytesOf t) = .gt ↔ t < s := by
  rw [← order_text]
  exact compareOfLessAndEq_eq_gt Std.le_antisymm (fun _ _ => Std.le_total) Std.not_le s t

/-- The bytes of the texts that two instants are bound as have the order of the seconds that the
texts show. -/
theorem boundText_chronological {s t : Instant} (hs : s.FourDigits) (ht : t.FourDigits) :
    ∃ a b, ofParam (.timestamp s) = text a ∧ ofParam (.timestamp t) = text b ∧
      (compareBytes (bytesOf a) (bytesOf b) = .lt ↔ s.wholeSecond < t.wholeSecond) ∧
      (compareBytes (bytesOf a) (bytesOf b) = .eq ↔ s.wholeSecond = t.wholeSecond) ∧
      (compareBytes (bytesOf a) (bytesOf b) = .gt ↔ t.wholeSecond < s.wholeSecond) := by
  refine ⟨s.text, t.text, rfl, rfl, ?_⟩
  rw [compareBytes_lt_iff, compareBytes_eq_iff, compareBytes_gt_iff]
  exact ⟨hs.text_lt_iff ht, hs.text_eq_iff ht, ht.text_lt_iff hs⟩

/-- The leap second at the end of 2016 and the midnight behind it. -/
theorem boundText_chronological_leapSecond : ∃ a b,
    ofParam (.timestamp ⟨17166, 86399, 1500000000⟩) = text a ∧
    ofParam (.timestamp ⟨17167, 0, 250000000⟩) = text b ∧
      compareBytes (bytesOf a) (bytesOf b) = .lt := by
  obtain ⟨a, b, ha, hb, hlt, _⟩ := boundText_chronological
    (s := ⟨17166, 86399, 1500000000⟩) (t := ⟨17167, 0, 250000000⟩) (by decide) (by decide)
  exact ⟨a, b, ha, hb, hlt.mpr (by decide)⟩

end Cell

end Rollup.Store
