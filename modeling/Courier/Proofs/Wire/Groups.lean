import Courier.Proofs.Text.Surrogates
import Courier.Proofs.Wire.ModifiedUtf8
import Mathlib.Algebra.GroupWithZero.Nat

/-!
# The grammar of modified UTF-8

Text in modified UTF-8 is a sequence of groups of one, two or three bytes, whose payloads are units
with paired surrogates. Decoding accepts exactly such bytes.
-/

namespace Courier.Wire.ModifiedUtf8

set_option autoImplicit false

/-- The payload bits of a group: `0xxxxxxx`, `110xxxxx 10yyyyyy` or `1110xxxx 10yyyyyy 10zzzzzz`. -/
inductive Group
  | one (x : BitVec 7)
  | two (x : BitVec 5) (y : BitVec 6)
  | three (x : BitVec 4) (y z : BitVec 6)

namespace Group

def bytes : Group → List UInt8
  | one x => [⟨0b0#1 ++ x⟩]
  | two x y => [⟨0b110#3 ++ x⟩, ⟨0b10#2 ++ y⟩]
  | three x y z => [⟨0b1110#4 ++ x⟩, ⟨0b10#2 ++ y⟩, ⟨0b10#2 ++ z⟩]

def unit : Group → UInt16
  | one x => ⟨0#9 ++ x⟩
  | two x y => ⟨0#5 ++ x ++ y⟩
  | three x y z => ⟨x ++ y ++ z⟩

end Group

theorem toNat_append {m n : Nat} (x : BitVec m) (y : BitVec n) :
    (x ++ y).toNat = x.toNat * 2 ^ n + y.toNat := by
  rw [BitVec.toNat_append, ← Nat.shiftLeft_add_eq_or_of_lt y.isLt, Nat.shiftLeft_eq]

/-! What the bytes of a group are as numbers. -/

theorem toNat_single (x : BitVec 7) : (⟨0b0#1 ++ x⟩ : UInt8).toNat = x.toNat := by
  have := toNat_append 0b0#1 x
  simpa using this

theorem toNat_leadTwo (x : BitVec 5) : (⟨0b110#3 ++ x⟩ : UInt8).toNat = 0xC0 + x.toNat :=
  toNat_append 0b110#3 x

theorem toNat_leadThree (x : BitVec 4) : (⟨0b1110#4 ++ x⟩ : UInt8).toNat = 0xE0 + x.toNat :=
  toNat_append 0b1110#4 x

theorem toNat_tail (y : BitVec 6) : (⟨0b10#2 ++ y⟩ : UInt8).toNat = 0x80 + y.toNat :=
  toNat_append 0b10#2 y

theorem toNat_unit_one (x : BitVec 7) : (Group.one x).unit.toNat = x.toNat := by
  have whole : (Group.one x).unit.toNat = (0#9).toNat * 2 ^ 7 + x.toNat := toNat_append 0#9 x
  simpa using whole

theorem toNat_unit_two (x : BitVec 5) (y : BitVec 6) :
    (Group.two x y).unit.toNat = x.toNat * 64 + y.toNat := by
  have whole : (Group.two x y).unit.toNat = (0#5 ++ x).toNat * 2 ^ 6 + y.toNat :=
    toNat_append (0#5 ++ x) y
  have high := toNat_append 0#5 x
  rw [whole, high]
  simp

theorem toNat_unit_three (x : BitVec 4) (y z : BitVec 6) :
    (Group.three x y z).unit.toNat = x.toNat * 4096 + y.toNat * 64 + z.toNat := by
  have whole : (Group.three x y z).unit.toNat = (x ++ y).toNat * 2 ^ 6 + z.toNat :=
    toNat_append (x ++ y) z
  have high := toNat_append x y
  omega

/-! A group is read as its unit, and nothing but a group is read. -/

theorem isContinuation_tail (y : BitVec 6) : isContinuation ⟨0b10#2 ++ y⟩ = true := by
  have := toNat_tail y
  rw [isContinuation_iff]
  omega

theorem decodeUnits_group (index : Nat) (done : List UInt16) (g : Group) (rest : List UInt8) :
    decodeUnits index done (g.bytes ++ rest) =
      decodeUnits (index + g.bytes.length) (g.unit :: done) rest := by
  cases g with
  | one x =>
    have byte := toNat_single x
    have unit : (⟨0b0#1 ++ x⟩ : UInt8).toUInt16 = (Group.one x).unit := by
      apply UInt16.toNat_inj.mp
      rw [UInt8.toNat_toUInt16, byte, toNat_unit_one]
    rw [Group.bytes, List.singleton_append, decodeUnits_one index done rest (by omega), unit]
    rfl
  | two x y =>
    have lead := toNat_leadTwo x
    have unit : UInt16.ofNat ((⟨0b110#3 ++ x⟩ : UInt8).toNat % 32 * 64 +
        (⟨0b10#2 ++ y⟩ : UInt8).toNat % 64) = (Group.two x y).unit := by
      apply ofNat_eq_of_toNat
      rw [lead, toNat_tail, toNat_unit_two]
      omega
    rw [Group.bytes, List.cons_append, List.singleton_append,
      decodeUnits_two index done rest (by omega) (by omega) (isContinuation_tail y), unit]
    rfl
  | three x y z =>
    have lead := toNat_leadThree x
    have unit : UInt16.ofNat ((⟨0b1110#4 ++ x⟩ : UInt8).toNat % 16 * 4096 +
        (⟨0b10#2 ++ y⟩ : UInt8).toNat % 64 * 64 + (⟨0b10#2 ++ z⟩ : UInt8).toNat % 64) =
          (Group.three x y z).unit := by
      apply ofNat_eq_of_toNat
      rw [lead, toNat_tail, toNat_tail, toNat_unit_three]
      omega
    rw [Group.bytes, List.cons_append, List.cons_append, List.singleton_append,
      decodeUnits_three index done rest (by omega) (by omega) (isContinuation_tail y)
        (isContinuation_tail z), unit]
    rfl

theorem decodeUnits_groups (index : Nat) (done : List UInt16) (gs : List Group) :
    decodeUnits index done (gs.flatMap Group.bytes) = .ok (done.reverse ++ gs.map Group.unit) := by
  induction gs generalizing index done with
  | nil => simp [decodeUnits]
  | cons g gs ih =>
    rw [List.flatMap_cons, decodeUnits_group, ih]
    simp

theorem exists_single {b : UInt8} (h : b < 0x80) : ∃ x : BitVec 7, b = ⟨0b0#1 ++ x⟩ := by
  rw [UInt8.lt_iff_toNat_lt, show (0x80 : UInt8).toNat = 0x80 from rfl] at h
  refine ⟨BitVec.ofNat 7 b.toNat, UInt8.toNat_inj.mp ?_⟩
  rw [toNat_single, BitVec.toNat_ofNat]
  omega

theorem exists_tail {b : UInt8} (h : isContinuation b = true) :
    ∃ y : BitVec 6, b = ⟨0b10#2 ++ y⟩ := by
  rw [isContinuation_iff] at h
  refine ⟨BitVec.ofNat 6 b.toNat, UInt8.toNat_inj.mp ?_⟩
  rw [toNat_tail, BitVec.toNat_ofNat]
  omega

theorem exists_leadTwo {b : UInt8} (h : (0xC0 ≤ b && b < 0xE0) = true) :
    ∃ x : BitVec 5, b = ⟨0b110#3 ++ x⟩ := by
  simp [UInt8.le_iff_toNat_le, UInt8.lt_iff_toNat_lt] at h
  refine ⟨BitVec.ofNat 5 b.toNat, UInt8.toNat_inj.mp ?_⟩
  rw [toNat_leadTwo, BitVec.toNat_ofNat]
  omega

theorem exists_leadThree {b : UInt8} (h : (0xE0 ≤ b && b < 0xF0) = true) :
    ∃ x : BitVec 4, b = ⟨0b1110#4 ++ x⟩ := by
  simp [UInt8.le_iff_toNat_le, UInt8.lt_iff_toNat_lt] at h
  refine ⟨BitVec.ofNat 4 b.toNat, UInt8.toNat_inj.mp ?_⟩
  rw [toNat_leadThree, BitVec.toNat_ofNat]
  omega

/-- Bytes are groups, or they are refused. -/
theorem groups_or_error (index : Nat) (done : List UInt16) (bytes : List UInt8) :
    (∃ gs : List Group, gs.flatMap Group.bytes = bytes) ∨
      ∃ e, decodeUnits index done bytes = .error e ∧ e.kind = .format := by
  have onward {g : Group} {rest : List UInt8} {result : Except Error (List UInt16)}
      (ih : (∃ gs : List Group, gs.flatMap Group.bytes = rest) ∨
        ∃ e, result = .error e ∧ e.kind = .format) :
      (∃ gs : List Group, gs.flatMap Group.bytes = g.bytes ++ rest) ∨
        ∃ e, result = .error e ∧ e.kind = .format := by
    rcases ih with ⟨gs, rfl⟩ | failed
    · exact Or.inl ⟨g :: gs, List.flatMap_cons⟩
    · exact Or.inr failed
  fun_induction decodeUnits index done bytes with
  | case1 index done => exact Or.inl ⟨[], rfl⟩
  | case2 index done b rest single ih =>
    obtain ⟨x, rfl⟩ := exists_single single
    exact onward (g := .one x) ih
  | case3 => exact Or.inr ⟨_, rfl, rfl⟩
  | case4 index done b single double b₂ rest second ih =>
    obtain ⟨x, rfl⟩ := exists_leadTwo double
    obtain ⟨y, rfl⟩ := exists_tail second
    exact onward (g := .two x y) ih
  | case5 => exact Or.inr ⟨_, rfl, rfl⟩
  | case6 => exact Or.inr ⟨_, rfl, rfl⟩
  | case7 => exact Or.inr ⟨_, rfl, rfl⟩
  | case8 index done b single double triple b₂ second b₃ rest third ih =>
    obtain ⟨x, rfl⟩ := exists_leadThree triple
    obtain ⟨y, rfl⟩ := exists_tail second
    obtain ⟨z, rfl⟩ := exists_tail third
    exact onward (g := .three x y z) ih
  | case9 => exact Or.inr ⟨_, rfl, rfl⟩
  | case10 => exact Or.inr ⟨_, rfl, rfl⟩
  | case11 => exact Or.inr ⟨_, rfl, rfl⟩

theorem decodeUnits_ok {index : Nat} {done units : List UInt16} {bytes : List UInt8}
    (h : decodeUnits index done bytes = .ok units) :
    ∃ gs : List Group, gs.flatMap Group.bytes = bytes ∧
      units = done.reverse ++ gs.map Group.unit := by
  rcases groups_or_error index done bytes with ⟨gs, rfl⟩ | ⟨e, failed, -⟩
  · rw [decodeUnits_groups] at h
    cases h
    exact ⟨gs, rfl, rfl⟩
  · rw [failed] at h
    cases h

theorem decode_of_units {bytes : List UInt8} {units : List UInt16} {s : String}
    (h : decodeUnits 0 [] bytes = .ok units) :
    decode bytes = .ok s ↔ Text.Utf16.encode s = units := by
  rw [← Text.Utf16.decode?_eq_some_iff]
  simp only [decode, h, bind, Except.bind]
  cases Text.Utf16.decode? units with
  | none => simp [throw, throwThe, MonadExceptOf.throw]
  | some t => simp [pure, Except.pure]

/-- Decoding gives the text whose units are the payloads of the groups. -/
theorem decode_groups (gs : List Group) (s : String) :
    decode (gs.flatMap Group.bytes) = .ok s ↔ Text.Utf16.encode s = gs.map Group.unit :=
  decode_of_units (decodeUnits_groups 0 [] gs)

theorem exists_groups_of_decode {bytes : List UInt8} {s : String} (h : decode bytes = .ok s) :
    ∃ gs : List Group, gs.flatMap Group.bytes = bytes ∧
      Text.Utf16.encode s = gs.map Group.unit := by
  rcases groups_or_error 0 [] bytes with ⟨gs, rfl⟩ | ⟨e, failed, -⟩
  · exact ⟨gs, rfl, (decode_groups gs s).mp h⟩
  · simp only [decode, failed, bind, Except.bind] at h
    cases h

theorem decode_error_kind {bytes : List UInt8} {e : Error} (h : decode bytes = .error e) :
    e.kind = .format := by
  rcases groups_or_error 0 [] bytes with ⟨gs, rfl⟩ | ⟨e', failed, kind⟩
  · simp only [decode, decodeUnits_groups, bind, Except.bind] at h
    cases paired : Text.Utf16.decode? ([].reverse ++ gs.map Group.unit) with
    | none =>
      rw [paired] at h
      cases h
      rfl
    | some s =>
      rw [paired] at h
      cases h
  · simp only [decode, failed, bind, Except.bind] at h
    cases h
    exact kind

/-! No group is the beginning of another, so bytes are groups in one way at most. -/

/-- The first byte tells how many there are. -/
theorem length_bytes_of_append {g h : Group} {r t : List UInt8}
    (same : g.bytes ++ r = h.bytes ++ t) : g.bytes.length = h.bytes.length := by
  have byte := congrArg (fun bytes => bytes.head?.map UInt8.toNat) same
  cases g <;> cases h <;>
    simp only [Group.bytes, List.cons_append, List.head?_cons, Option.map_some, Option.some.injEq,
      toNat_single, toNat_leadTwo, toNat_leadThree, List.length_cons, List.length_nil] at byte ⊢ <;>
    omega

theorem bytes_inj {g h : Group} (same : g.bytes = h.bytes) : g = h := by
  have numbers := congrArg (List.map UInt8.toNat) same
  cases g <;> cases h <;>
    simp only [Group.bytes, List.map_cons, List.map_nil, List.cons.injEq, toNat_single,
      toNat_leadTwo, toNat_leadThree, toNat_tail, Nat.add_left_cancel_iff, BitVec.toNat_inj,
      reduceCtorEq, and_false, and_true] at numbers
  · rw [numbers]
  · rw [numbers.1, numbers.2]
  · rw [numbers.1, numbers.2.1, numbers.2.2]

theorem bytes_append_inj {g h : Group} {r t : List UInt8} (same : g.bytes ++ r = h.bytes ++ t) :
    g = h ∧ r = t := by
  obtain ⟨front, rest⟩ := List.append_inj same (length_bytes_of_append same)
  exact ⟨bytes_inj front, rest⟩

theorem flatMap_bytes_inj {gs hs : List Group}
    (same : gs.flatMap Group.bytes = hs.flatMap Group.bytes) : gs = hs := by
  induction gs generalizing hs with
  | nil =>
    cases hs with
    | nil => rfl
    | cons h hs => cases h <;> cases same
  | cons g gs ih =>
    cases hs with
    | nil => cases g <;> cases same
    | cons h hs =>
      rw [List.flatMap_cons, List.flatMap_cons] at same
      obtain ⟨rfl, rest⟩ := bytes_append_inj same
      rw [ih rest]

end Courier.Wire.ModifiedUtf8
