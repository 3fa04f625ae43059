import Courier.Proofs.Text.Utf16
import Courier.Wire.ModifiedUtf8

/-!
# Modified UTF-8 reads back

The group of a unit is read as that unit, whatever stands behind it, so the groups of a string
decode to its units and these pair up to the string.
-/

namespace Courier.Wire.ModifiedUtf8

set_option autoImplicit false

theorem toNat_byte {n : Nat} (h : n < 256) : (UInt8.ofNat n).toNat = n := by
  rw [UInt8.toNat_ofNat']
  omega

theorem isContinuation_iff (b : UInt8) :
    isContinuation b = true ↔ 0x80 ≤ b.toNat ∧ b.toNat < 0xC0 := by
  simp [isContinuation, UInt8.le_iff_toNat_le, UInt8.lt_iff_toNat_lt]

theorem isContinuation_low (n : Nat) : isContinuation (UInt8.ofNat (0x80 + n % 64)) = true := by
  rw [isContinuation_iff, toNat_byte (by omega)]
  omega

/-- Six low bits of a continuation byte are the six bits it was made of. -/
theorem low_bits (n : Nat) : (UInt8.ofNat (0x80 + n % 64)).toNat % 64 = n % 64 := by
  rw [toNat_byte (by omega)]
  omega

theorem ofNat_eq_of_toNat {n : Nat} {u : UInt16} (h : n = u.toNat) : UInt16.ofNat n = u := by
  rw [h, UInt16.ofNat_toNat]

section Groups
variable (index : Nat) (done : List UInt16) (rest : List UInt8)

theorem decodeUnits_one {b : UInt8} (h : b.toNat < 0x80) :
    decodeUnits index done (b :: rest) = decodeUnits (index + 1) (b.toUInt16 :: done) rest := by
  have single : b < 0x80 := UInt8.lt_iff_toNat_lt.mpr h
  rw [decodeUnits.eq_def]
  simp only [if_pos single]

theorem decodeUnits_two {b b₂ : UInt8} (h : 0xC0 ≤ b.toNat) (h' : b.toNat < 0xE0)
    (h₂ : isContinuation b₂ = true) :
    decodeUnits index done (b :: b₂ :: rest) = decodeUnits (index + 2)
      (UInt16.ofNat (b.toNat % 32 * 64 + b₂.toNat % 64) :: done) rest := by
  have single : ¬ b < 0x80 := by
    rw [UInt8.lt_iff_toNat_lt, show (0x80 : UInt8).toNat = 0x80 from rfl]
    omega
  have double : (decide (0xC0 ≤ b) && decide (b < 0xE0)) = true := by
    rw [Bool.and_eq_true, decide_eq_true_iff, decide_eq_true_iff]
    exact ⟨UInt8.le_iff_toNat_le.mpr h, UInt8.lt_iff_toNat_lt.mpr h'⟩
  rw [decodeUnits.eq_def]
  simp only [if_neg single, double, h₂, if_true]

theorem decodeUnits_three {b b₂ b₃ : UInt8} (h : 0xE0 ≤ b.toNat) (h' : b.toNat < 0xF0)
    (h₂ : isContinuation b₂ = true) (h₃ : isContinuation b₃ = true) :
    decodeUnits index done (b :: b₂ :: b₃ :: rest) = decodeUnits (index + 3)
      (UInt16.ofNat (b.toNat % 16 * 4096 + b₂.toNat % 64 * 64 + b₃.toNat % 64) :: done) rest := by
  have single : ¬ b < 0x80 := by
    rw [UInt8.lt_iff_toNat_lt, show (0x80 : UInt8).toNat = 0x80 from rfl]
    omega
  have double : ¬ (decide (0xC0 ≤ b) && decide (b < 0xE0)) = true := by
    rw [Bool.and_eq_true, decide_eq_true_iff, decide_eq_true_iff, UInt8.lt_iff_toNat_lt,
      show (0xE0 : UInt8).toNat = 0xE0 from rfl]
    omega
  have triple : (decide (0xE0 ≤ b) && decide (b < 0xF0)) = true := by
    rw [Bool.and_eq_true, decide_eq_true_iff, decide_eq_true_iff]
    exact ⟨UInt8.le_iff_toNat_le.mpr h, UInt8.lt_iff_toNat_lt.mpr h'⟩
  rw [decodeUnits.eq_def]
  simp only [if_neg single, if_neg double, triple, h₂, h₃, if_true]

/-- The group of a unit stands for that unit. -/
theorem decodeUnits_encodeUnit (u : UInt16) :
    decodeUnits index done (encodeUnit u ++ rest) =
      decodeUnits (index + (encodeUnit u).length) (u :: done) rest := by
  have bound : u.toNat < 65536 := u.toNat_lt
  unfold encodeUnit
  dsimp only
  split
  · rename_i h
    have small : u.toNat ≠ 0 ∧ u.toNat < 0x80 := by simpa using h
    have byte : (UInt8.ofNat u.toNat).toNat = u.toNat := toNat_byte (by omega)
    have unit : (UInt8.ofNat u.toNat).toUInt16 = u :=
      UInt16.toNat_inj.mp (by rw [UInt8.toNat_toUInt16, byte])
    rw [List.singleton_append, decodeUnits_one index done rest (by omega), unit]
    rfl
  · split
    · have lead : (UInt8.ofNat (0xC0 + u.toNat / 64)).toNat = 0xC0 + u.toNat / 64 :=
        toNat_byte (by omega)
      rw [List.cons_append, List.singleton_append,
        decodeUnits_two index done rest (by omega) (by omega) (isContinuation_low _), low_bits,
        ofNat_eq_of_toNat (u := u) (by omega)]
      rfl
    · have lead : (UInt8.ofNat (0xE0 + u.toNat / 4096)).toNat = 0xE0 + u.toNat / 4096 :=
        toNat_byte (by omega)
      rw [List.cons_append, List.cons_append, List.singleton_append,
        decodeUnits_three index done rest (by omega) (by omega) (isContinuation_low _)
          (isContinuation_low _), low_bits, low_bits, ofNat_eq_of_toNat (u := u) (by omega)]
      rfl

end Groups

theorem decodeUnits_flatMap (index : Nat) (done units : List UInt16) :
    decodeUnits index done (units.flatMap encodeUnit) = .ok (done.reverse ++ units) := by
  induction units generalizing index done with
  | nil => simp [decodeUnits]
  | cons u units ih =>
    rw [List.flatMap_cons, decodeUnits_encodeUnit, ih]
    simp

theorem decode_encode (s : String) : decode (encode s) = .ok s := by
  unfold decode encode
  rw [decodeUnits_flatMap]
  simp only [List.reverse_nil, List.nil_append, bind, Except.bind, Text.Utf16.decode?_encode]
  rfl

theorem length_encodeUnit_le (u : UInt16) : (encodeUnit u).length ≤ 3 := by
  simp only [encodeUnit]
  split
  · exact Nat.le_add_left 1 2
  · split
    · exact Nat.le_add_left 2 1
    · exact Nat.le_refl 3

/-- A character takes six bytes at most, three for each of its two units. -/
theorem length_encode_le_six_mul (s : String) : (encode s).length ≤ 6 * s.toList.length := by
  rw [encode, Text.Utf16.encode]
  induction s.toList with
  | nil => exact Nat.le_refl 0
  | cons c cs ih =>
    have first : ((Text.Utf16.encodeChar c).flatMap encodeUnit).length ≤ 6 := by
      unfold Text.Utf16.encodeChar
      split
      · have unit := length_encodeUnit_le (UInt16.ofNat c.toNat)
        simp only [List.flatMap_cons, List.flatMap_nil, List.append_nil]
        omega
      · have high := length_encodeUnit_le (UInt16.ofNat (0xD800 + (c.toNat - 0x10000) / 0x400))
        have low := length_encodeUnit_le (UInt16.ofNat (0xDC00 + (c.toNat - 0x10000) % 0x400))
        simp only [List.flatMap_cons, List.flatMap_nil, List.append_nil, List.length_append]
        omega
    rw [List.flatMap_cons, List.flatMap_append, List.length_append, List.length_cons]
    omega

end Courier.Wire.ModifiedUtf8
