/-!
Decoding bytes as UTF-8. What is no encoded character becomes the replacement character: one for
each byte that starts nothing, and one for each beginning of a character that does not go on.
-/
namespace Rollup.Text

/-- The bytes that may follow a first byte, as inclusive ranges, and the value bits in the first
byte; `none` if no character starts with it. -/
def continuation? (lead : Nat) : Option (Nat × List (Nat × Nat)) :=
  if lead < 0x80 then some (lead, [])
  else if 0xC2 ≤ lead ∧ lead ≤ 0xDF then some (lead - 0xC0, [(0x80, 0xBF)])
  else if lead = 0xE0 then some (0, [(0xA0, 0xBF), (0x80, 0xBF)])
  else if lead = 0xED then some (0xD, [(0x80, 0x9F), (0x80, 0xBF)])
  else if 0xE1 ≤ lead ∧ lead ≤ 0xEF then some (lead - 0xE0, [(0x80, 0xBF), (0x80, 0xBF)])
  else if lead = 0xF0 then some (0, [(0x90, 0xBF), (0x80, 0xBF), (0x80, 0xBF)])
  else if 0xF1 ≤ lead ∧ lead ≤ 0xF3 then some (lead - 0xF0, [(0x80, 0xBF), (0x80, 0xBF), (0x80, 0xBF)])
  else if lead = 0xF4 then some (4, [(0x80, 0x8F), (0x80, 0xBF), (0x80, 0xBF)])
  else none

/-- Takes bytes as long as they lie in the ranges; also whether every range was used. -/
def follow : List (Nat × Nat) → Nat → List UInt8 → Nat × Bool × List UInt8
  | [], n, bytes => (n, true, bytes)
  | _ :: _, n, [] => (n, false, [])
  | (low, high) :: ranges, n, b :: bytes =>
    if low ≤ b.toNat ∧ b.toNat ≤ high then follow ranges (n * 64 + b.toNat % 64) bytes
    else (n, false, b :: bytes)

def replacement : Char := Char.ofNat 0xFFFD

/-- The first character of some bytes, and the bytes behind it. -/
def firstChar (lead : UInt8) (bytes : List UInt8) : Char × List UInt8 :=
  match continuation? lead.toNat with
  | none => (replacement, bytes)
  | some (n, ranges) =>
    match follow ranges n bytes with
    | (n, true, rest) => (Char.ofNat n, rest)
    | (_, false, rest) => (replacement, rest)

theorem length_follow (ranges : List (Nat × Nat)) (n : Nat) (bytes : List UInt8) :
    (follow ranges n bytes).2.2.length ≤ bytes.length := by
  fun_induction follow ranges n bytes with
  | case1 => simp
  | case2 => simp
  | case3 n low high ranges b bytes h ih => simp only [List.length_cons]; omega
  | case4 => simp

theorem length_firstChar (lead : UInt8) (bytes : List UInt8) :
    (firstChar lead bytes).2.length ≤ bytes.length := by
  unfold firstChar
  split
  · simp
  · next n ranges h =>
    have := length_follow ranges n bytes
    split <;> simp_all

/-- The characters of some bytes. -/
def decodeBytes : List UInt8 → List Char
  | [] => []
  | b :: bytes => (firstChar b bytes).1 :: decodeBytes (firstChar b bytes).2
  termination_by bytes => bytes.length
  decreasing_by
    have := length_firstChar b bytes
    simp only [List.length_cons]
    omega

example : decodeBytes [0x61, 0xC3, 0xA9, 0xFF, 0xE2, 0x82] =
    ['a', 'é', replacement, replacement] := by cbv

end Rollup.Text
