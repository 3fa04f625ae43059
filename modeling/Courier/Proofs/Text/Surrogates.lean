import Courier.Proofs.Text.Utf16

/-!
# Which units are text

A sequence of units is the UTF-16 form of a string exactly when its surrogates pair up, and pairing
them gives that string.
-/

namespace Courier.Text.Utf16

set_option autoImplicit false

/-- Right behind each high surrogate stands a low one, and right in front of each low surrogate a
high one. -/
structure Paired (units : List UInt16) : Prop where
  high : ∀ i u, units[i]? = some u → isHigh u = true →
    ∃ v, units[i + 1]? = some v ∧ isLow v = true
  low : ∀ i v, units[i]? = some v → isLow v = true →
    ∃ j u, i = j + 1 ∧ units[j]? = some u ∧ isHigh u = true

theorem isLow_of_isHigh {u : UInt16} (h : isHigh u = true) : isLow u = false := by
  rw [isHigh_iff] at h
  rw [Bool.eq_false_iff, ne_eq, isLow_iff]
  omega

theorem isHigh_of_isLow {u : UInt16} (h : isLow u = true) : isHigh u = false := by
  rw [Bool.eq_false_iff]
  intro high
  rw [isLow_of_isHigh high] at h
  cases h

theorem paired_nil : Paired [] := by
  refine ⟨?_, ?_⟩
  · intro i u found
    cases found
  · intro i v found
    cases found

theorem paired_single {u : UInt16} (high : isHigh u = false) (low : isLow u = false) :
    Paired [u] := by
  refine ⟨?_, ?_⟩
  · intro i w found isHigh
    cases List.mem_singleton.mp (List.mem_of_getElem? found)
    rw [high] at isHigh
    cases isHigh
  · intro i w found isLow
    cases List.mem_singleton.mp (List.mem_of_getElem? found)
    rw [low] at isLow
    cases isLow

theorem paired_pair {u v : UInt16} (high : isHigh u = true) (low : isLow v = true) :
    Paired [u, v] := by
  refine ⟨?_, ?_⟩
  · intro i w found isHigh
    match i with
    | 0 => exact ⟨v, rfl, low⟩
    | 1 =>
      cases found
      rw [isHigh_of_isLow low] at isHigh
      cases isHigh
  · intro i w found isLow
    match i with
    | 0 =>
      cases found
      rw [isLow_of_isHigh high] at isLow
      cases isLow
    | 1 => exact ⟨0, u, rfl, rfl, high⟩

/-- Units that are paired among themselves do not matter to those behind them. -/
theorem paired_append_iff {front rest : List UInt16} (h : Paired front) :
    Paired (front ++ rest) ↔ Paired rest := by
  have inside {i : Nat} {u : UInt16} (found : front[i]? = some u) :
      (front ++ rest)[i]? = some u := by
    rw [List.getElem?_append_left (List.getElem?_eq_some_iff.mp found).1, found]
  have behind (i : Nat) : (front ++ rest)[front.length + i]? = rest[i]? := by
    rw [List.getElem?_append_right (Nat.le_add_right _ _), Nat.add_sub_cancel_left]
  constructor
  · intro whole
    refine ⟨?_, ?_⟩
    · intro i u found high
      rw [← behind (i + 1)]
      exact whole.high (front.length + i) u ((behind i).trans found) high
    · intro i v found low
      obtain ⟨j, u, same, before, high⟩ :=
        whole.low (front.length + i) v ((behind i).trans found) low
      cases i with
      | zero =>
        -- a high surrogate at the end of `front` would have its partner in there
        rw [List.getElem?_append_left (by omega)] at before
        obtain ⟨w, next, -⟩ := h.high j u before high
        rw [← same, Nat.add_zero, List.getElem?_eq_none (Nat.le_refl front.length)] at next
        cases next
      | succ i =>
        cases same
        exact ⟨i, u, rfl, (behind i).symm.trans before, high⟩
  · intro paired
    have split (i : Nat) : i < front.length ∨ ∃ k, i = front.length + k :=
      (Nat.lt_or_ge i front.length).imp_right Nat.exists_eq_add_of_le
    refine ⟨?_, ?_⟩
    · intro i u found high
      rcases split i with less | ⟨k, rfl⟩
      · rw [List.getElem?_append_left less] at found
        obtain ⟨v, next, low⟩ := h.high i u found high
        exact ⟨v, inside next, low⟩
      · obtain ⟨v, next, low⟩ := paired.high k u ((behind k).symm.trans found) high
        exact ⟨v, (behind (k + 1)).trans next, low⟩
    · intro i v found low
      rcases split i with less | ⟨k, rfl⟩
      · rw [List.getElem?_append_left less] at found
        obtain ⟨j, u, rfl, before, high⟩ := h.low i v found low
        exact ⟨j, u, rfl, inside before, high⟩
      · obtain ⟨j, u, rfl, before, high⟩ := paired.low k v ((behind k).symm.trans found) low
        exact ⟨front.length + j, u, rfl, (behind j).trans before, high⟩

/-- A high surrogate needs its partner, -/
theorem not_paired_high {u : UInt16} {rest : List UInt16} (high : isHigh u = true)
    (alone : ∀ v, rest.head? = some v → isLow v = false) : ¬ Paired (u :: rest) := by
  intro paired
  obtain ⟨v, next, low⟩ := paired.high 0 u rfl high
  rw [List.getElem?_cons_succ, ← List.head?_eq_getElem?] at next
  rw [alone v next] at low
  cases low

/-- and so does a low one. -/
theorem not_paired_low {v : UInt16} {rest : List UInt16} (low : isLow v = true) :
    ¬ Paired (v :: rest) := by
  intro paired
  obtain ⟨j, u, same, -⟩ := paired.low 0 v rfl low
  cases same

theorem exists_decodeLoop_iff (done : List Char) (units : List UInt16) :
    (∃ cs, decodeLoop done units = some cs) ↔ Paired units := by
  fun_induction decodeLoop done units with
  | case1 done => exact iff_of_true ⟨_, rfl⟩ paired_nil
  | case2 done u high v rest low ih =>
    exact ih.trans (paired_append_iff (paired_pair high low)).symm
  | case3 done u high v rest low =>
    refine iff_of_false (by simp) (not_paired_high high ?_)
    intro w first
    cases first
    exact Bool.eq_false_iff.mpr low
  | case4 done u high =>
    refine iff_of_false (by simp) (not_paired_high high ?_)
    intro w first
    cases first
  | case5 done u rest high low => exact iff_of_false (by simp) (not_paired_low low)
  | case6 done u rest high low ih =>
    have plain := paired_single (Bool.eq_false_iff.mpr high) (Bool.eq_false_iff.mpr low)
    exact ih.trans (paired_append_iff plain).symm

theorem toNat_ofNat_of_range {n : Nat} (h : n < 0xD800 ∨ 0xDFFF < n ∧ n < 0x110000) :
    (Char.ofNat n).toNat = n := by
  rw [Char.ofNat, dif_pos h]
  rfl

theorem encodeChar_of_unit {u : UInt16} (high : isHigh u = false) (low : isLow u = false) :
    encodeChar (Char.ofNat u.toNat) = [u] := by
  have bound : u.toNat < 65536 := u.toNat_lt
  rw [Bool.eq_false_iff, ne_eq, isHigh_iff] at high
  rw [Bool.eq_false_iff, ne_eq, isLow_iff] at low
  have code := toNat_ofNat_of_range (n := u.toNat) (by omega)
  rw [encodeChar, code, if_pos bound, UInt16.ofNat_toNat]

theorem encodeChar_joinPair {u v : UInt16} (high : isHigh u = true) (low : isLow v = true) :
    encodeChar (joinPair u v) = [u, v] := by
  rw [isHigh_iff] at high
  rw [isLow_iff] at low
  have code : (joinPair u v).toNat =
      0x10000 + (u.toNat - 0xD800) * 0x400 + (v.toNat - 0xDC00) :=
    toNat_ofNat_of_range (by omega)
  have first : 0xD800 + ((joinPair u v).toNat - 0x10000) / 0x400 = u.toNat := by omega
  have second : 0xDC00 + ((joinPair u v).toNat - 0x10000) % 0x400 = v.toNat := by omega
  have wide : ¬ (joinPair u v).toNat < 0x10000 := by omega
  simp only [encodeChar, if_neg wide, first, second, UInt16.ofNat_toNat]

/-- The characters that were found behind `done` are those of the units. -/
theorem flatMap_of_decodeLoop {done cs : List Char} {units : List UInt16}
    (h : decodeLoop done units = some cs) :
    ∃ found, cs = done.reverse ++ found ∧ found.flatMap encodeChar = units := by
  fun_induction decodeLoop done units with
  | case1 done =>
    cases h
    exact ⟨[], by simp, rfl⟩
  | case2 done u high v rest low ih =>
    obtain ⟨found, rfl, rfl⟩ := ih h
    refine ⟨joinPair u v :: found, by simp, ?_⟩
    rw [List.flatMap_cons, encodeChar_joinPair high low]
    rfl
  | case3 => cases h
  | case4 => cases h
  | case5 => cases h
  | case6 done u rest high low ih =>
    obtain ⟨found, rfl, rfl⟩ := ih h
    refine ⟨Char.ofNat u.toNat :: found, by simp, ?_⟩
    rw [List.flatMap_cons,
      encodeChar_of_unit (Bool.eq_false_iff.mpr high) (Bool.eq_false_iff.mpr low)]
    rfl

theorem decode?_eq_some_iff {units : List UInt16} {s : String} :
    decode? units = some s ↔ encode s = units := by
  constructor
  · intro h
    obtain ⟨cs, loop, rfl⟩ := Option.map_eq_some_iff.mp h
    obtain ⟨found, rfl, same⟩ := flatMap_of_decodeLoop loop
    rw [encode, String.toList_ofList]
    exact same
  · rintro rfl
    exact decode?_encode s

/-- The units that are text. -/
theorem exists_encode_iff {units : List UInt16} : (∃ s, encode s = units) ↔ Paired units := by
  rw [← exists_decodeLoop_iff [] units]
  simp only [← decode?_eq_some_iff, decode?, Option.map_eq_some_iff]
  constructor
  · rintro ⟨s, cs, loop, -⟩
    exact ⟨cs, loop⟩
  · rintro ⟨cs, loop⟩
    exact ⟨_, cs, loop, rfl⟩

end Courier.Text.Utf16
