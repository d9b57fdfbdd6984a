/-!
Letter case, as far as names made of ASCII letters see it. Exactly two kinds of character have a
lower-case form inside ASCII that differs from them: the letters A to Z and the Kelvin sign.
-/
namespace Rollup.Text

/-- The Kelvin sign, whose lower-case form is the letter k. -/
def kelvinSign : Char := Char.ofNat 0x212A

/-- The lower-case form of a character, where that form is an ASCII letter. -/
def foldChar (c : Char) : Char := if c = kelvinSign then 'k' else c.toLower

/-- A text with every character folded. It equals an ASCII name exactly when the full lower-case
form of the text does. -/
def fold (s : String) : String := String.ofList (s.toList.map foldChar)

/-- Equality of texts up to the case of ASCII letters. -/
def sameAsciiFold (s t : String) : Bool :=
  s.toList.map Char.toLower == t.toList.map Char.toLower

theorem foldChar_eq_iff {c d : Char} (hk : d ≠ 'k') (hsign : d ≠ kelvinSign) :
    foldChar c = d ↔ c.toLower = d := by
  unfold foldChar
  by_cases hc : c = kelvinSign
  · subst hc
    have hlower : kelvinSign.toLower = kelvinSign := by decide
    rw [if_pos rfl, hlower]
    exact ⟨fun h => absurd h.symm hk, fun h => absurd h.symm hsign⟩
  · rw [if_neg hc]

/-- Names in lower case without the letter k are found by the case of ASCII letters alone. -/
theorem fold_eq_iff {s t : String}
    (ht : (t.toList.all fun c => c != 'k' && c != kelvinSign && c.toLower == c) = true) :
    fold s = t ↔ sameAsciiFold s t = true := by
  have hlists : ∀ cs ds : List Char, (∀ c ∈ ds, c ≠ 'k' ∧ c ≠ kelvinSign ∧ c.toLower = c) →
      (cs.map foldChar = ds ↔ cs.map Char.toLower = ds.map Char.toLower) := by
    intro cs
    induction cs with
    | nil => intro ds _; cases ds <;> simp
    | cons c cs ih =>
      intro ds hds
      cases ds with
      | nil => simp
      | cons d ds =>
        obtain ⟨hk, hsign, hlower⟩ := hds d (by simp)
        rw [List.map_cons, List.map_cons, List.map_cons, List.cons.injEq, List.cons.injEq, hlower,
          foldChar_eq_iff hk hsign, ih ds fun e he => hds e (by simp [he])]
  unfold fold sameAsciiFold
  rw [← String.toList_inj, String.toList_ofList, beq_iff_eq]
  exact hlists _ _ (by simpa [and_assoc] using ht)

example : fold "WEE\u212A" = "week" := by decide +kernel
example : sameAsciiFold "CsV" "csv" = true := by decide +kernel

end Rollup.Text
