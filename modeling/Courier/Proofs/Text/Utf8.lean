import Courier.Proofs.Text.Utf16
import Courier.Text.Utf8

/-!
# UTF-8 reads back

The bytes of a character are read as that character, whatever stands behind them, so the bytes of
a string decode to the string.
-/

namespace Courier.Text.Utf8

set_option autoImplicit false

theorem within_iff (lo hi b : UInt8) :
    within lo hi b = true ↔ lo.toNat ≤ b.toNat ∧ b.toNat ≤ hi.toNat := by
  simp [within, UInt8.le_iff_toNat_le]

theorem trailing_one {b : UInt8} (h : b.toNat < 0x80) : trailing b = some 0 :=
  if_pos (UInt8.lt_iff_toNat_lt.mpr h)

theorem not_single {b : UInt8} (h : 0x80 ≤ b.toNat) : ¬ b < 0x80 := by
  rw [UInt8.lt_iff_toNat_lt, show (0x80 : UInt8).toNat = 0x80 from rfl]
  omega

/-- What lies outside a range is not within it. -/
theorem not_within {lo hi b : UInt8} (h : b.toNat < lo.toNat ∨ hi.toNat < b.toNat) :
    ¬ within lo hi b = true := by
  rw [within_iff]
  omega

theorem trailing_two {b : UInt8} (h : 0xC2 ≤ b.toNat) (h' : b.toNat ≤ 0xDF) :
    trailing b = some 1 := by
  rw [trailing, if_neg (not_single (by omega)), if_pos ((within_iff 0xC2 0xDF b).mpr ⟨h, h'⟩)]

theorem trailing_three {b : UInt8} (h : 0xE0 ≤ b.toNat) (h' : b.toNat ≤ 0xEF) :
    trailing b = some 2 := by
  have beyond : (0xDF : UInt8).toNat < b.toNat := Nat.lt_of_lt_of_le (by decide) h
  rw [trailing, if_neg (not_single (by omega)), if_neg (not_within (.inr beyond)),
    if_pos ((within_iff 0xE0 0xEF b).mpr ⟨h, h'⟩)]

theorem trailing_four {b : UInt8} (h : 0xF0 ≤ b.toNat) (h' : b.toNat ≤ 0xF4) :
    trailing b = some 3 := by
  have beyond₂ : (0xDF : UInt8).toNat < b.toNat := Nat.lt_of_lt_of_le (by decide) h
  have beyond₃ : (0xEF : UInt8).toNat < b.toNat := Nat.lt_of_lt_of_le (by decide) h
  rw [trailing, if_neg (not_single (by omega)), if_neg (not_within (.inr beyond₂)),
    if_neg (not_within (.inr beyond₃)), if_pos ((within_iff 0xF0 0xF4 b).mpr ⟨h, h'⟩)]

/-- A leading byte narrows the range of the second one to what it leaves open: no character is
written longer than it has to be, none is a surrogate, and none lies above U+10FFFF. -/
theorem second_within (lead : UInt8) {b : UInt8} (tail : 0x80 ≤ b.toNat ∧ b.toNat ≤ 0xBF)
    (e0 : lead.toNat = 0xE0 → 0xA0 ≤ b.toNat) (ed : lead.toNat = 0xED → b.toNat ≤ 0x9F)
    (f0 : lead.toNat = 0xF0 → 0x90 ≤ b.toNat) (f4 : lead.toNat = 0xF4 → b.toNat ≤ 0x8F) :
    within (secondRange lead).1 (secondRange lead).2 b = true := by
  rw [within_iff, secondRange]
  split
  · rename_i h
    exact ⟨e0 (congrArg UInt8.toNat h), tail.2⟩
  · split
    · rename_i h
      exact ⟨tail.1, ed (congrArg UInt8.toNat h)⟩
    · split
      · rename_i h
        exact ⟨f0 (congrArg UInt8.toNat h), tail.2⟩
      · split
        · rename_i h
          exact ⟨tail.1, f4 (congrArg UInt8.toNat h)⟩
        · exact tail

theorem continuation_cons {seen payload n : Nat} {range : UInt8 × UInt8} {b : UInt8}
    {rest : List UInt8} (h : within range.1 range.2 b = true) :
    continuation seen payload range (n + 1) (b :: rest) =
      continuation (seen + 1) (payload * 64 + b.toNat % 64) (0x80, 0xBF) n rest := by
  rw [continuation, if_pos h]

section Tails
variable (v : Nat)

theorem toNat_tail : (UInt8.ofNat (v % 64 + 128)).toNat = v % 64 + 128 :=
  UInt8.toNat_ofNat_of_lt' (by rw [UInt8.size]; omega)

theorem tail_range :
    0x80 ≤ (UInt8.ofNat (v % 64 + 128)).toNat ∧ (UInt8.ofNat (v % 64 + 128)).toNat ≤ 0xBF := by
  rw [toNat_tail]
  omega

/-- A later byte brings six bits. -/
theorem continuation_tail (seen payload n : Nat) (rest : List UInt8) :
    continuation seen payload (0x80, 0xBF) (n + 1) (UInt8.ofNat (v % 64 + 128) :: rest) =
      continuation (seen + 1) (payload * 64 + v % 64) (0x80, 0xBF) n rest := by
  have inside : within 0x80 0xBF (UInt8.ofNat (v % 64 + 128)) = true :=
    (within_iff 0x80 0xBF _).mpr (tail_range v)
  have six : (v % 64 + 128) % 64 = v % 64 := by omega
  rw [continuation, if_pos inside, toNat_tail, six]

end Tails

theorem decodeFirst_of_continuation {lead : UInt8} {rest : List UInt8} {n code : Nat} {c : Char}
    (following : trailing lead = some (n + 1))
    (read : continuation 1 (lead.toNat % Nat.pow 2 (6 - (n + 1))) (secondRange lead) (n + 1) rest =
      .ok code) (char : Char.ofNat code = c) : decodeFirst lead rest = .ok (c, n + 1) := by
  rw [decodeFirst, following]
  simp only [Nat.add_eq_zero_iff, Nat.one_ne_zero, and_false, if_false, read, Except.map, char]

theorem ofNat_of_eq {c : Char} {n : Nat} (h : n = c.toNat) : Char.ofNat n = c := by
  rw [h, Char.ofNat_toNat]

/-- The bytes of a character lead back to it. -/
theorem decodeFirst_encodeChar (c : Char) (rest : List UInt8) :
    ∃ lead tail, String.utf8EncodeChar c = lead :: tail ∧
      decodeFirst lead (tail ++ rest) = .ok (c, tail.length) := by
  have range := Utf16.char_toNat_range c
  have value : c.val.toNat = c.toNat := rfl
  rw [String.utf8EncodeChar.eq_1, value]
  generalize hv : c.toNat = v at range
  split
  · have lead : (UInt8.ofNat v).toNat = v := UInt8.toNat_ofNat_of_lt' (by rw [UInt8.size]; omega)
    refine ⟨_, [], rfl, ?_⟩
    rw [decodeFirst, trailing_one (by omega)]
    simp only [if_true, lead, continuation, Except.map, List.length_nil, ofNat_of_eq hv.symm]
  · split
    · have lead : (UInt8.ofNat (v / 64 % 32 + 192)).toNat = v / 64 % 32 + 192 :=
        UInt8.toNat_ofNat_of_lt' (by rw [UInt8.size]; omega)
      refine ⟨_, [_], rfl, ?_⟩
      apply decodeFirst_of_continuation (n := 0) (trailing_two (by omega) (by omega))
      · rw [List.singleton_append, continuation_cons
          (second_within _ (tail_range _) (by omega) (by omega) (by omega) (by omega)),
          continuation]
      · apply ofNat_of_eq
        rw [hv, lead, toNat_tail]
        simp only [Nat.pow_eq]
        omega
    · split
      · have lead : (UInt8.ofNat (v / 4096 % 16 + 224)).toNat = v / 4096 % 16 + 224 :=
          UInt8.toNat_ofNat_of_lt' (by rw [UInt8.size]; omega)
        have second := toNat_tail (v / 64)
        refine ⟨_, [_, _], rfl, ?_⟩
        apply decodeFirst_of_continuation (n := 1) (trailing_three (by omega) (by omega))
        · have inside := second_within (UInt8.ofNat (v / 4096 % 16 + 224))
            (tail_range (v / 64)) (by omega) (by omega) (by omega) (by omega)
          rw [List.cons_append, List.singleton_append, continuation_cons inside,
            continuation_tail, continuation]
        · apply ofNat_of_eq
          rw [hv, lead, toNat_tail]
          simp only [Nat.pow_eq]
          omega
      · have lead : (UInt8.ofNat (v / 262144 % 8 + 240)).toNat = v / 262144 % 8 + 240 :=
          UInt8.toNat_ofNat_of_lt' (by rw [UInt8.size]; omega)
        have second := toNat_tail (v / 4096)
        refine ⟨_, [_, _, _], rfl, ?_⟩
        apply decodeFirst_of_continuation (n := 2) (trailing_four (by omega) (by omega))
        · have inside := second_within (UInt8.ofNat (v / 262144 % 8 + 240))
            (tail_range (v / 4096)) (by omega) (by omega) (by omega) (by omega)
          rw [List.cons_append, List.cons_append, List.singleton_append, continuation_cons inside,
            continuation_tail, continuation_tail, continuation]
        · apply ofNat_of_eq
          rw [hv, lead, toNat_tail]
          simp only [Nat.pow_eq]
          omega

theorem decodeLoop_flatMap (index : Nat) (done cs : List Char) :
    decodeLoop index done (cs.flatMap String.utf8EncodeChar) = .ok (done.reverse ++ cs) := by
  induction cs generalizing index done with
  | nil => simp [decodeLoop]
  | cons c cs ih =>
    obtain ⟨lead, tail, bytes, read⟩ := decodeFirst_encodeChar c (cs.flatMap String.utf8EncodeChar)
    rw [List.flatMap_cons, bytes, List.cons_append, decodeLoop, read]
    simp only [List.drop_left, ih, List.reverse_cons, List.append_assoc, List.singleton_append]

theorem decode_encode (s : String) : decode (encode s) = .ok s := by
  rw [decode, encode, decodeLoop_flatMap]
  simp only [List.reverse_nil, List.nil_append, Except.map, String.ofList_toList]

end Courier.Text.Utf8
