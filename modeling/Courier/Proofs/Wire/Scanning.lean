import Courier.Proofs.Wire.Groups

/-!
# Decoding by position

A scan of the bytes by their positions, with a mask for each kind of group, never asks for a byte
outside of them and finds the units that decoding finds. With that, decoding is pinned down on all
bytes: what it accepts, what it makes of it, and that everything else is broken data.
-/

namespace Courier.Wire.ModifiedUtf8

set_option autoImplicit false

/-- The continuation byte at a position that may lie behind the last one. -/
def continuationAt (bytes : List UInt8) (i : Nat) : Except Error UInt8 :=
  match bytes[i]? with
  | some b => if b &&& 0xC0 = 0x80 then .ok b else .error (.malformedContinuation i)
  | none => .error .truncatedGroup

/-- The units from position `i` on. Asked for a byte outside of `bytes`, the scan is `none`. -/
def scan (bytes : List UInt8) (i : Nat) (done : List UInt16) :
    Option (Except Error (List UInt16)) :=
  if i < bytes.length then
    match bytes[i]? with
    | none => none
    | some b =>
      if b &&& 0x80 = 0 then scan bytes (i + 1) (b.toUInt16 :: done)
      else if b &&& 0xE0 = 0xC0 then
        match continuationAt bytes (i + 1) with
        | .error e => some (.error e)
        | .ok b₂ =>
          scan bytes (i + 2) (((b &&& 0x1F).toUInt16 <<< 6 ||| (b₂ &&& 0x3F).toUInt16) :: done)
      else if b &&& 0xF0 = 0xE0 then
        match continuationAt bytes (i + 1) with
        | .error e => some (.error e)
        | .ok b₂ =>
          match continuationAt bytes (i + 2) with
          | .error e => some (.error e)
          | .ok b₃ =>
            scan bytes (i + 3) (((b &&& 0x0F).toUInt16 <<< 12 ||| (b₂ &&& 0x3F).toUInt16 <<< 6 |||
              (b₃ &&& 0x3F).toUInt16) :: done)
      else some (.error (.malformedGroup i))
  else some (.ok done.reverse)
termination_by bytes.length - i

/-! Each mask asks for the range of bytes that it singles out. -/

theorem mask_single (b : UInt8) : b &&& 0x80 = 0 ↔ b < 0x80 := by
  rcases b with ⟨v⟩
  revert v
  decide

theorem mask_leadTwo (b : UInt8) : b &&& 0xE0 = 0xC0 ↔ (0xC0 ≤ b && b < 0xE0) = true := by
  rcases b with ⟨v⟩
  revert v
  decide

theorem mask_leadThree (b : UInt8) : b &&& 0xF0 = 0xE0 ↔ (0xE0 ≤ b && b < 0xF0) = true := by
  rcases b with ⟨v⟩
  revert v
  decide

theorem mask_continuation (b : UInt8) : b &&& 0xC0 = 0x80 ↔ isContinuation b = true := by
  rcases b with ⟨v⟩
  revert v
  decide

/-- Bits moved up and others put into the room below them. -/
theorem toNat_shift_or (high low : UInt16) {k : Nat} (small : k < 16)
    (fits : high.toNat * 2 ^ k < 65536) (room : low.toNat < 2 ^ k) :
    (high <<< UInt16.ofNat k ||| low).toNat = high.toNat * 2 ^ k + low.toNat := by
  have places : (UInt16.ofNat k).toNat % 16 = k := by
    rw [UInt16.toNat_ofNat']
    omega
  rw [UInt16.toNat_or, UInt16.toNat_shiftLeft, places, Nat.shiftLeft_eq, Nat.mod_eq_of_lt fits,
    ← Nat.shiftLeft_eq, ← Nat.shiftLeft_add_eq_or_of_lt room, Nat.shiftLeft_eq]

theorem toNat_payload (b : UInt8) (n : Nat) (h : n < 8) :
    (b &&& UInt8.ofNat (2 ^ n - 1)).toUInt16.toNat = b.toNat % 2 ^ n := by
  have small : 2 ^ n ≤ 2 ^ 7 := Nat.pow_le_pow_right (by decide) (by omega)
  have mask : (UInt8.ofNat (2 ^ n - 1)).toNat = 2 ^ n - 1 := toNat_byte (by omega)
  rw [UInt8.toNat_toUInt16, UInt8.toNat_and, mask, Nat.and_two_pow_sub_one_eq_mod]

theorem join_two (b b₂ : UInt8) :
    (b &&& 0x1F).toUInt16 <<< 6 ||| (b₂ &&& 0x3F).toUInt16 =
      UInt16.ofNat (b.toNat % 32 * 64 + b₂.toNat % 64) := by
  have high : (b &&& 0x1F).toUInt16.toNat = b.toNat % 32 := toNat_payload b 5 (by decide)
  have low : (b₂ &&& 0x3F).toUInt16.toNat = b₂.toNat % 64 := toNat_payload b₂ 6 (by decide)
  have whole := toNat_shift_or (b &&& 0x1F).toUInt16 (b₂ &&& 0x3F).toUInt16 (k := 6) (by decide)
    (by omega) (by omega)
  rw [high, low] at whole
  exact (ofNat_eq_of_toNat whole.symm).symm

theorem join_three (b b₂ b₃ : UInt8) :
    (b &&& 0x0F).toUInt16 <<< 12 ||| (b₂ &&& 0x3F).toUInt16 <<< 6 ||| (b₃ &&& 0x3F).toUInt16 =
      UInt16.ofNat (b.toNat % 16 * 4096 + b₂.toNat % 64 * 64 + b₃.toNat % 64) := by
  have high : (b &&& 0x0F).toUInt16.toNat = b.toNat % 16 := toNat_payload b 4 (by decide)
  have middle : (b₂ &&& 0x3F).toUInt16.toNat = b₂.toNat % 64 := toNat_payload b₂ 6 (by decide)
  have low : (b₃ &&& 0x3F).toUInt16.toNat = b₃.toNat % 64 := toNat_payload b₃ 6 (by decide)
  have tail := toNat_shift_or (b₂ &&& 0x3F).toUInt16 (b₃ &&& 0x3F).toUInt16 (k := 6) (by decide)
    (by omega) (by omega)
  have whole := toNat_shift_or (b &&& 0x0F).toUInt16
    ((b₂ &&& 0x3F).toUInt16 <<< UInt16.ofNat 6 ||| (b₃ &&& 0x3F).toUInt16) (k := 12) (by decide)
    (by omega) (by omega)
  rw [tail, high, middle, low, ← Nat.add_assoc] at whole
  rw [UInt16.or_assoc]
  exact (ofNat_eq_of_toNat whole.symm).symm

/-! Where the bytes end, a continuation byte is missing; elsewhere it is looked at. -/

theorem continuationAt_of_drop {bytes rest : List UInt8} {i : Nat} {b : UInt8}
    (h : bytes.drop i = b :: rest) :
    continuationAt bytes i =
      if isContinuation b then .ok b else .error (.malformedContinuation i) := by
  have found : bytes[i]? = some b := by
    rw [← List.head?_drop, h]
    rfl
  simp only [continuationAt, found, mask_continuation]

theorem continuationAt_of_end {bytes : List UInt8} {i : Nat} (h : bytes.drop i = []) :
    continuationAt bytes i = .error .truncatedGroup := by
  have none : bytes[i]? = none := by
    rw [← List.head?_drop, h]
    rfl
  simp only [continuationAt, none]

theorem drop_succ_of_drop {bytes rest : List UInt8} {i : Nat} {b : UInt8}
    (h : bytes.drop i = b :: rest) : bytes.drop (i + 1) = rest := by
  rw [← List.tail_drop, h]
  rfl

/-- One step of the scan, with ranges and numbers for the masks. -/
theorem scan_of_drop {bytes rest : List UInt8} {i : Nat} {b : UInt8}
    (h : bytes.drop i = b :: rest) (done : List UInt16) :
    scan bytes i done =
      if b < 0x80 then scan bytes (i + 1) (b.toUInt16 :: done)
      else if 0xC0 ≤ b && b < 0xE0 then
        match continuationAt bytes (i + 1) with
        | .error e => some (.error e)
        | .ok b₂ =>
          scan bytes (i + 2) (UInt16.ofNat (b.toNat % 32 * 64 + b₂.toNat % 64) :: done)
      else if 0xE0 ≤ b && b < 0xF0 then
        match continuationAt bytes (i + 1) with
        | .error e => some (.error e)
        | .ok b₂ =>
          match continuationAt bytes (i + 2) with
          | .error e => some (.error e)
          | .ok b₃ =>
            scan bytes (i + 3) (UInt16.ofNat
              (b.toNat % 16 * 4096 + b₂.toNat % 64 * 64 + b₃.toNat % 64) :: done)
      else some (.error (.malformedGroup i)) := by
  have found : bytes[i]? = some b := by
    rw [← List.head?_drop, h]
    rfl
  have inside : i < bytes.length := (List.getElem?_eq_some_iff.mp found).1
  rw [scan]
  simp only [if_pos inside, found, mask_single, mask_leadTwo, mask_leadThree, join_two, join_three]

theorem scan_of_end {bytes : List UInt8} {i : Nat} (h : bytes.drop i = []) (done : List UInt16) :
    scan bytes i done = some (.ok done.reverse) := by
  have outside : ¬ i < bytes.length := by
    have := List.drop_eq_nil_iff.mp h
    omega
  rw [scan, if_neg outside]

/-- The scan asks for no byte outside of `bytes` and finds what decoding finds behind `i`. -/
theorem scan_eq (bytes : List UInt8) (i : Nat) (done : List UInt16) (rest : List UInt8)
    (h : bytes.drop i = rest) : scan bytes i done = some (decodeUnits i done rest) := by
  fun_induction decodeUnits i done rest with
  | case1 i done => exact scan_of_end h done
  | case2 i done b rest single ih =>
    rw [scan_of_drop h, if_pos single]
    exact ih (drop_succ_of_drop h)
  | case3 i done b single double =>
    rw [scan_of_drop h, if_neg single, if_pos double,
      continuationAt_of_end (drop_succ_of_drop h)]
  | case4 i done b single double b₂ rest second ih =>
    have h₂ := drop_succ_of_drop h
    rw [scan_of_drop h, if_neg single, if_pos double, continuationAt_of_drop h₂, if_pos second]
    exact ih (drop_succ_of_drop h₂)
  | case5 i done b single double b₂ rest second =>
    rw [scan_of_drop h, if_neg single, if_pos double,
      continuationAt_of_drop (drop_succ_of_drop h), if_neg second]
  | case6 i done b single double triple =>
    rw [scan_of_drop h, if_neg single, if_neg double, if_pos triple,
      continuationAt_of_end (drop_succ_of_drop h)]
  | case7 i done b single double triple b₂ second =>
    have h₂ := drop_succ_of_drop h
    rw [scan_of_drop h, if_neg single, if_neg double, if_pos triple, continuationAt_of_drop h₂,
      if_pos second, continuationAt_of_end (drop_succ_of_drop h₂)]
  | case8 i done b single double triple b₂ second b₃ rest third ih =>
    have h₂ := drop_succ_of_drop h
    have h₃ := drop_succ_of_drop h₂
    rw [scan_of_drop h, if_neg single, if_neg double, if_pos triple, continuationAt_of_drop h₂,
      if_pos second, continuationAt_of_drop h₃, if_pos third]
    exact ih (drop_succ_of_drop h₃)
  | case9 i done b single double triple b₂ second b₃ rest third =>
    have h₂ := drop_succ_of_drop h
    rw [scan_of_drop h, if_neg single, if_neg double, if_pos triple, continuationAt_of_drop h₂,
      if_pos second, continuationAt_of_drop (drop_succ_of_drop h₂), if_neg third]
  | case10 i done b single double triple b₂ rest second =>
    rw [scan_of_drop h, if_neg single, if_neg double, if_pos triple,
      continuationAt_of_drop (drop_succ_of_drop h), if_neg second]
  | case11 i done b rest single double triple =>
    rw [scan_of_drop h, if_neg single, if_neg double, if_neg triple]

/-- Decoding accepts exactly the bytes that are groups, in one way only, whose payloads have paired
surrogates, and gives the text of these units. It refuses all other bytes as broken, and never
looks outside of them. -/
theorem decode_grammar (bytes : List UInt8) :
    ((∃ s, decode bytes = .ok s) ↔ ∃ gs : List Group, gs.flatMap Group.bytes = bytes ∧
      Text.Utf16.Paired (gs.map Group.unit)) ∧
    (∀ gs : List Group, gs.flatMap Group.bytes = bytes →
      (∀ s, decode bytes = .ok s ↔ Text.Utf16.encode s = gs.map Group.unit) ∧
      ∀ hs : List Group, hs.flatMap Group.bytes = bytes → hs = gs) ∧
    (∀ e, decode bytes = .error e → e.kind = .format) ∧
    scan bytes 0 [] = some (decodeUnits 0 [] bytes) := by
  refine ⟨?_, ?_, fun e => decode_error_kind, scan_eq bytes 0 [] bytes rfl⟩
  · constructor
    · rintro ⟨s, h⟩
      obtain ⟨gs, same, units⟩ := exists_groups_of_decode h
      exact ⟨gs, same, Text.Utf16.exists_encode_iff.mp ⟨s, units⟩⟩
    · rintro ⟨gs, rfl, paired⟩
      obtain ⟨s, units⟩ := Text.Utf16.exists_encode_iff.mpr paired
      exact ⟨s, (decode_groups gs s).mpr units⟩
  · rintro gs rfl
    exact ⟨decode_groups gs, fun hs => flatMap_bytes_inj⟩

/-- A raw zero, an overlong `A` and a pair of surrogates are read as text; a group that was cut off
is broken data. -/
theorem decode_grammar_loose :
    decode [0, 0xC1, 0x81, 0xED, 0xA0, 0xBD, 0xED, 0xB8, 0x80] =
        .ok (String.ofList [Char.ofNat 0, 'A', Char.ofNat 0x1F600]) ∧
      ∃ e, decode [0xE4, 0xB8] = .error e ∧ e.kind = .format := by
  refine ⟨?_, .truncatedGroup, rfl, (decode_grammar [0xE4, 0xB8]).2.2.1 .truncatedGroup rfl⟩
  have units := ((decode_grammar [0, 0xC1, 0x81, 0xED, 0xA0, 0xBD, 0xED, 0xB8, 0x80]).2.1
    [.one 0, .two 1 1, .three 0xD 0x20 0x3D, .three 0xD 0x38 0] rfl).1
  exact (units _).mpr (by decide)

end Courier.Wire.ModifiedUtf8
