import Courier.Proofs.Wire.Groups
import Mathlib.Data.Set.Function

/-!
# The canonical form of modified UTF-8

Encoding takes the shortest group for each unit, except that zero takes two bytes. Decoding is less
strict: it also accepts raw zeros and overlong groups, and what it reads is encoded as it was
exactly when there are none.
-/

namespace Courier.Wire.ModifiedUtf8

set_option autoImplicit false

/-- The group is longer than its payload needs. The unit zero needs two bytes. -/
def Group.Overlong : Group → Prop
  | one _ => False
  | two x y => 0x01 ≤ (two x y).unit.toNat ∧ (two x y).unit.toNat ≤ 0x7F
  | three x y z => (three x y z).unit.toNat < 0x800

/-- Groups none of which is overlong, without a raw zero. -/
structure Canonical (bytes : List UInt8) : Prop where
  noZero : 0 ∉ bytes
  shortest : ∃ gs : List Group, gs.flatMap Group.bytes = bytes ∧ ∀ g ∈ gs, ¬ g.Overlong

/-- How many bytes a unit needs. -/
def width (u : UInt16) : Nat :=
  if 0x01 ≤ u.toNat ∧ u.toNat ≤ 0x7F then 1 else if u.toNat ≤ 0x7FF then 2 else 3

section Units
variable {u : UInt16}

theorem width_le_two (h : u.toNat < 0x800) : width u ≤ 2 := by
  unfold width
  split
  · omega
  · rw [if_pos (by omega)]

theorem width_le_three (u : UInt16) : width u ≤ 3 := by
  unfold width
  split
  · omega
  · split <;> omega

theorem encodeUnit_small (h : 0x01 ≤ u.toNat ∧ u.toNat ≤ 0x7F) :
    encodeUnit u = [UInt8.ofNat u.toNat] := by
  have small : (u.toNat ≠ 0 && u.toNat < 0x80) = true := by
    simp
    omega
  simp only [encodeUnit, small, if_true]

theorem encodeUnit_middle (h : ¬ (0x01 ≤ u.toNat ∧ u.toNat ≤ 0x7F)) (h' : u.toNat ≤ 0x7FF) :
    encodeUnit u =
      [UInt8.ofNat (0xC0 + u.toNat / 64), UInt8.ofNat (0x80 + u.toNat % 64)] := by
  have small : ¬ (u.toNat ≠ 0 && u.toNat < 0x80) = true := by
    simp
    omega
  have middle : u.toNat < 0x800 := by omega
  simp only [encodeUnit, if_neg small, if_pos middle]

theorem encodeUnit_large (h : ¬ u.toNat ≤ 0x7FF) :
    encodeUnit u =
      [UInt8.ofNat (0xE0 + u.toNat / 4096), UInt8.ofNat (0x80 + u.toNat / 64 % 64),
        UInt8.ofNat (0x80 + u.toNat % 64)] := by
  have small : ¬ (u.toNat ≠ 0 && u.toNat < 0x80) = true := by
    simp
    omega
  have middle : ¬ u.toNat < 0x800 := by omega
  simp only [encodeUnit, if_neg small, if_neg middle]

theorem length_encodeUnit (u : UInt16) : (encodeUnit u).length = width u := by
  unfold width
  split
  · rename_i h
    rw [encodeUnit_small h]
    rfl
  · rename_i h
    split
    · rename_i h'
      rw [encodeUnit_middle h h']
      rfl
    · rename_i h'
      rw [encodeUnit_large h']
      rfl

end Units

theorem length_encode (s : String) :
    (encode s).length = ((Text.Utf16.encode s).map width).sum := by
  simp only [encode, List.length_flatMap, length_encodeUnit]

/-- Only a group of one byte has a zero in it. -/
theorem zero_mem_bytes_iff (g : Group) : 0 ∈ g.bytes ↔ g = .one 0 := by
  have number (b : UInt8) : 0 = b ↔ b.toNat = 0 := by
    rw [← UInt8.toNat_inj, eq_comm]
    rfl
  cases g with
  | one x =>
    simp only [Group.bytes, List.mem_singleton, number, toNat_single, Group.one.injEq]
    exact BitVec.toNat_inj (y := 0)
  | two x y =>
    have lead := toNat_leadTwo x
    have tail := toNat_tail y
    refine iff_of_false ?_ (fun same => by cases same)
    simp only [Group.bytes, List.mem_cons, List.not_mem_nil, or_false, number]
    omega
  | three x y z =>
    have lead := toNat_leadThree x
    have second := toNat_tail y
    have third := toNat_tail z
    refine iff_of_false ?_ (fun same => by cases same)
    simp only [Group.bytes, List.mem_cons, List.not_mem_nil, or_false, number]
    omega

theorem byte_of_toNat {b : UInt8} {n : Nat} (h : b.toNat = n) : UInt8.ofNat n = b := by
  rw [← h, UInt8.ofNat_toNat]

theorem width_of_encodeUnit {g : Group} (h : encodeUnit g.unit = g.bytes) :
    width g.unit = g.bytes.length := by
  rw [← h, length_encodeUnit]

/-- A unit is encoded as the group that it was read from if that is no raw zero and no longer than
it must be. -/
theorem encodeUnit_unit_iff (g : Group) :
    encodeUnit g.unit = g.bytes ↔ 0 ∉ g.bytes ∧ ¬ g.Overlong := by
  cases g with
  | one x =>
    have unit := toNat_unit_one x
    have bound := x.isLt
    by_cases zero : x.toNat = 0
    · have same : x = 0 := BitVec.eq_of_toNat_eq zero
      subst same
      exact iff_of_false (by decide) fun h => h.1 (by decide)
    · have mem : 0 ∉ (Group.one x).bytes := by
        rw [zero_mem_bytes_iff]
        rintro ⟨rfl⟩
        exact zero rfl
      refine iff_of_true ?_ ⟨mem, id⟩
      rw [encodeUnit_small (by omega),
        byte_of_toNat (b := ⟨0b0#1 ++ x⟩) (by rw [toNat_single, unit])]
      rfl
  | two x y =>
    have unit := toNat_unit_two x y
    have high := x.isLt
    have low := y.isLt
    have mem : 0 ∉ (Group.two x y).bytes := by
      rw [zero_mem_bytes_iff]
      exact nofun
    by_cases small : 0x01 ≤ (Group.two x y).unit.toNat ∧ (Group.two x y).unit.toNat ≤ 0x7F
    · refine iff_of_false ?_ fun h => h.2 small
      intro same
      have size := width_of_encodeUnit same
      rw [width, if_pos small] at size
      cases size
    · refine iff_of_true ?_ ⟨mem, small⟩
      rw [encodeUnit_middle small (by omega),
        byte_of_toNat (b := ⟨0b110#3 ++ x⟩) (by rw [toNat_leadTwo, unit]; omega),
        byte_of_toNat (b := ⟨0b10#2 ++ y⟩) (by rw [toNat_tail, unit]; omega)]
      rfl
  | three x y z =>
    have unit := toNat_unit_three x y z
    have high := x.isLt
    have middle := y.isLt
    have low := z.isLt
    have mem : 0 ∉ (Group.three x y z).bytes := by
      rw [zero_mem_bytes_iff]
      exact nofun
    by_cases small : (Group.three x y z).unit.toNat < 0x800
    · refine iff_of_false ?_ fun h => h.2 small
      intro same
      have size : width (Group.three x y z).unit = 3 := width_of_encodeUnit same
      have less := width_le_two small
      omega
    · refine iff_of_true ?_ ⟨mem, small⟩
      rw [encodeUnit_large (by omega),
        byte_of_toNat (b := ⟨0b1110#4 ++ x⟩) (by rw [toNat_leadThree, unit]; omega),
        byte_of_toNat (b := ⟨0b10#2 ++ y⟩) (by rw [toNat_tail, unit]; omega),
        byte_of_toNat (b := ⟨0b10#2 ++ z⟩) (by rw [toNat_tail, unit]; omega)]
      rfl

/-- Only a raw zero gets longer. -/
theorem length_encodeUnit_unit_le {g : Group} (h : 0 ∉ g.bytes) :
    (encodeUnit g.unit).length ≤ g.bytes.length := by
  rw [length_encodeUnit]
  cases g with
  | one x =>
    have same : encodeUnit (Group.one x).unit = (Group.one x).bytes :=
      (encodeUnit_unit_iff (.one x)).mpr ⟨h, id⟩
    exact (width_of_encodeUnit same).le
  | two x y =>
    have unit := toNat_unit_two x y
    have high := x.isLt
    have low := y.isLt
    exact width_le_two (by omega)
  | three x y z => exact width_le_three _

theorem exists_group_of_encodeUnit (u : UInt16) :
    ∃ g : Group, g.bytes = encodeUnit u ∧ g.unit = u := by
  have read : decodeUnits 0 [] (encodeUnit u) = .ok [u] := by
    have one := decodeUnits_flatMap 0 [] [u]
    simpa using one
  obtain ⟨gs, same, units⟩ := decodeUnits_ok read
  have single : gs.map Group.unit = [u] := units.symm
  obtain ⟨g, rfl, unit⟩ := List.map_eq_singleton_iff.mp single
  exact ⟨g, by simpa using same, unit⟩

theorem zero_notMem_encodeUnit (u : UInt16) : 0 ∉ encodeUnit u := by
  obtain ⟨g, same, rfl⟩ := exists_group_of_encodeUnit u
  rw [← same]
  exact ((encodeUnit_unit_iff g).mp same.symm).1

theorem zero_notMem_encode (s : String) : 0 ∉ encode s := by
  simp only [encode, List.mem_flatMap, not_exists, not_and]
  exact fun u _ => zero_notMem_encodeUnit u

theorem encode_of_units {s : String} {gs : List Group}
    (h : Text.Utf16.encode s = gs.map Group.unit) :
    encode s = gs.flatMap fun g => encodeUnit g.unit := by
  rw [encode, h, List.flatMap_map]

/-- Units are encoded as the groups that they were read from only if each of them is. -/
theorem flatMap_encodeUnit_iff (gs : List Group) :
    (gs.flatMap fun g => encodeUnit g.unit) = gs.flatMap Group.bytes ↔
      ∀ g ∈ gs, encodeUnit g.unit = g.bytes := by
  induction gs with
  | nil => simp
  | cons g gs ih =>
    rw [List.flatMap_cons, List.flatMap_cons, List.forall_mem_cons, ← ih]
    constructor
    · intro same
      obtain ⟨h, group, unit⟩ := exists_group_of_encodeUnit g.unit
      rw [← group] at same ⊢
      obtain ⟨rfl, rest⟩ := bytes_append_inj same
      exact ⟨rfl, rest⟩
    · rintro ⟨first, rest⟩
      rw [first, rest]

theorem canonical_groups_iff (gs : List Group) :
    Canonical (gs.flatMap Group.bytes) ↔ ∀ g ∈ gs, encodeUnit g.unit = g.bytes := by
  have zero : 0 ∉ gs.flatMap Group.bytes ↔ ∀ g ∈ gs, 0 ∉ g.bytes := by simp
  simp only [encodeUnit_unit_iff]
  constructor
  · rintro ⟨noZero, hs, same, shortest⟩
    rw [flatMap_bytes_inj same] at shortest
    exact fun g mem => ⟨zero.mp noZero g mem, shortest g mem⟩
  · intro h
    exact ⟨zero.mpr fun g mem => (h g mem).1, gs, rfl, fun g mem => (h g mem).2⟩

/-- What decoding reads is encoded as it was if it was canonical, and only then. -/
theorem encode_eq_iff {bytes : List UInt8} {s : String} (h : decode bytes = .ok s) :
    encode s = bytes ↔ Canonical bytes := by
  obtain ⟨gs, rfl, units⟩ := exists_groups_of_decode h
  rw [encode_of_units units, flatMap_encodeUnit_iff, canonical_groups_iff]

/-- Without a raw zero in it, what was read does not get longer. -/
theorem length_encode_le {bytes : List UInt8} {s : String} (h : decode bytes = .ok s)
    (noZero : 0 ∉ bytes) : (encode s).length ≤ bytes.length := by
  obtain ⟨gs, rfl, units⟩ := exists_groups_of_decode h
  rw [encode_of_units units]
  clear units h
  induction gs with
  | nil => exact Nat.le_refl 0
  | cons g gs ih =>
    rw [List.flatMap_cons, List.mem_append, not_or] at noZero
    have first := length_encodeUnit_unit_le noZero.1
    have rest := ih noZero.2
    simp only [List.flatMap_cons, List.length_append]
    omega

/-- A string is read back from its encoding, which has no zero byte in it and one, two or three
bytes for each unit. What decoding reads is encoded as it was exactly when it was canonical, so
encoding takes the strings one to one to the canonical bytes that stand for text. -/
theorem canonical_form :
    (∀ s, decode (encode s) = .ok s ∧ 0 ∉ encode s ∧
      (encode s).length = ((Text.Utf16.encode s).map width).sum) ∧
    (∀ (bytes : List UInt8) (s : String), decode bytes = .ok s →
      (encode s = bytes ↔ Canonical bytes)) ∧
    Set.BijOn encode Set.univ {bytes | (∃ s, decode bytes = .ok s) ∧ Canonical bytes} := by
  refine ⟨fun s => ⟨decode_encode s, zero_notMem_encode s, length_encode s⟩,
    fun bytes s => encode_eq_iff, ?_, ?_, ?_⟩
  · intro s _
    exact ⟨⟨s, decode_encode s⟩, (encode_eq_iff (decode_encode s)).mp rfl⟩
  · intro s _ t _ same
    have read := decode_encode s
    rw [same, decode_encode] at read
    cases read
    rfl
  · rintro bytes ⟨⟨s, read⟩, canonical⟩
    exact ⟨s, Set.mem_univ s, (encode_eq_iff read).mpr canonical⟩

/-- An overlong `A` is read as that letter and encoded in one byte, while the two bytes of a zero
are canonical. -/
theorem canonical_form_letter :
    decode [0xC1, 0x81] = .ok "A" ∧ encode "A" ≠ [0xC1, 0x81] ∧ ¬ Canonical [0xC1, 0x81] ∧
      Canonical [0xC0, 0x80] := by
  have overlong : decode [0xC1, 0x81] = .ok "A" := by rfl
  have zero : decode [0xC0, 0x80] = .ok (String.singleton (Char.ofNat 0)) := by rfl
  have letter : encode "A" ≠ [0xC1, 0x81] := by decide
  refine ⟨overlong, letter, ?_, (canonical_form.2.1 _ _ zero).mp (by decide)⟩
  intro canonical
  exact letter ((canonical_form.2.1 _ _ overlong).mpr canonical)

end Courier.Wire.ModifiedUtf8
