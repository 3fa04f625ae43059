import Courier.Text.Utf16

/-!
# UTF-16 reads back

Pairing the units of a string gives the string again. A unit below the surrogates or above them
stands for itself, and a character above U+FFFF is the only one that meets the pairing rule.
-/

namespace Courier.Text.Utf16

set_option autoImplicit false

theorem isHigh_iff (u : UInt16) : isHigh u = true ↔ 0xD800 ≤ u.toNat ∧ u.toNat ≤ 0xDBFF := by
  simp [isHigh, UInt16.le_iff_toNat_le]

theorem isLow_iff (u : UInt16) : isLow u = true ↔ 0xDC00 ≤ u.toNat ∧ u.toNat ≤ 0xDFFF := by
  simp [isLow, UInt16.le_iff_toNat_le]

/-- No character is a surrogate, and none lies above U+10FFFF. -/
theorem char_toNat_range (c : Char) :
    c.toNat < 0xD800 ∨ 0xDFFF < c.toNat ∧ c.toNat < 0x110000 := by
  rcases c.valid with h | ⟨h, h'⟩
  · exact Or.inl h
  · exact Or.inr ⟨h, h'⟩

theorem toNat_ofNat_of_lt {n : Nat} (h : n < 0x10000) : (UInt16.ofNat n).toNat = n := by
  rw [UInt16.toNat_ofNat']
  omega

theorem not_surrogate_of_toNat {u : UInt16} (c : Char) (h : u.toNat = c.toNat) :
    isHigh u = false ∧ isLow u = false := by
  have range := char_toNat_range c
  constructor
  · rw [Bool.eq_false_iff, ne_eq, isHigh_iff]
    omega
  · rw [Bool.eq_false_iff, ne_eq, isLow_iff]
    omega

theorem decodeLoop_single (done : List Char) (c : Char) (rest : List UInt16)
    (h : c.toNat < 0x10000) :
    decodeLoop done (UInt16.ofNat c.toNat :: rest) = decodeLoop (c :: done) rest := by
  have unit : (UInt16.ofNat c.toNat).toNat = c.toNat := toNat_ofNat_of_lt h
  obtain ⟨high, low⟩ := not_surrogate_of_toNat c unit
  rw [decodeLoop.eq_def]
  simp only [high, low, unit, Char.ofNat_toNat, Bool.false_eq_true, if_false]

/-- The two halves of a character above U+FFFF give it back. -/
theorem joinPair_halves {c : Char} (h : 0x10000 ≤ c.toNat) {high low : UInt16}
    (hHigh : high.toNat = 0xD800 + (c.toNat - 0x10000) / 0x400)
    (hLow : low.toNat = 0xDC00 + (c.toNat - 0x10000) % 0x400) : joinPair high low = c := by
  have code : 0x10000 + (high.toNat - 0xD800) * 0x400 + (low.toNat - 0xDC00) = c.toNat := by
    rw [hHigh, hLow]
    omega
  rw [joinPair, code, Char.ofNat_toNat]

theorem decodeLoop_encodeChar (done : List Char) (c : Char) (rest : List UInt16) :
    decodeLoop done (encodeChar c ++ rest) = decodeLoop (c :: done) rest := by
  unfold encodeChar
  by_cases h : c.toNat < 0x10000
  · rw [if_pos h]
    exact decodeLoop_single done c rest h
  · rw [if_neg h]
    have range := char_toNat_range c
    have hHigh := toNat_ofNat_of_lt (n := 0xD800 + (c.toNat - 0x10000) / 0x400) (by omega)
    have hLow := toNat_ofNat_of_lt (n := 0xDC00 + (c.toNat - 0x10000) % 0x400) (by omega)
    have high : isHigh (UInt16.ofNat (0xD800 + (c.toNat - 0x10000) / 0x400)) = true := by
      rw [isHigh_iff, hHigh]
      omega
    have low : isLow (UInt16.ofNat (0xDC00 + (c.toNat - 0x10000) % 0x400)) = true := by
      rw [isLow_iff, hLow]
      omega
    simp only [List.cons_append, List.nil_append, decodeLoop, high, low, if_true]
    rw [joinPair_halves (by omega) hHigh hLow]

theorem decodeLoop_flatMap (done cs : List Char) :
    decodeLoop done (cs.flatMap encodeChar) = some (done.reverse ++ cs) := by
  induction cs generalizing done with
  | nil => simp [decodeLoop]
  | cons c cs ih =>
    rw [List.flatMap_cons, decodeLoop_encodeChar, ih]
    simp

theorem decode?_encode (s : String) : decode? (encode s) = some s := by
  rw [decode?, encode, decodeLoop_flatMap]
  simp

end Courier.Text.Utf16
