import Courier.Proofs.Wire.ModifiedUtf8
import Courier.Wire.Encoding

/-!
# What reads take

`Takes r bytes a`: wherever `bytes` come next, `r` turns them into `a` and moves right behind
them, no matter what follows. Each piece of an encoding is taken by its read, and sequences of
reads take the pieces one after the other.
-/

namespace Courier.Wire

set_option autoImplicit false

namespace Cursor

@[simp] theorem skip_rest (c : Cursor) (n : Nat) : (c.skip n).rest = c.rest.drop n := rfl

@[simp] theorem skip_data (c : Cursor) (n : Nat) : (c.skip n).data = c.data := rfl

@[simp] theorem skip_skip (c : Cursor) (m n : Nat) : (c.skip m).skip n = c.skip (m + n) := by
  simp [skip]

@[simp] theorem start_rest (data : List UInt8) : (start data).rest = data := rfl

theorem position_skip (c : Cursor) {n : Nat} (h : n ≤ c.rest.length) :
    (c.skip n).position = c.position + n := by
  have := c.suffix.length_le
  simp only [position, skip_data, skip_rest, List.length_drop]
  omega

theorem position_start_skip {data : List UInt8} {n : Nat} (h : n ≤ data.length) :
    ((start data).skip n).position = n := by
  have := position_skip (start data) (n := n) h
  simpa [position, start] using this

end Cursor

namespace Read

variable {α β : Type}

/-- Wherever `bytes` come next, `r` turns them into `a` and moves behind them. -/
def Takes (r : Read α) (bytes : List UInt8) (a : α) : Prop :=
  ∀ (c : Cursor) (rest : List UInt8), c.rest = bytes ++ rest → r c = .ok a (c.skip bytes.length)

theorem Takes.pure (a : α) : Takes (pure a) [] a := fun _ _ _ => rfl

theorem Takes.bind {r : Read α} {f : α → Read β} {xs ys : List UInt8} {a : α} {b : β}
    (hr : Takes r xs a) (hf : Takes (f a) ys b) : Takes (r >>= f) (xs ++ ys) b := by
  intro c rest h
  rw [List.append_assoc] at h
  have behind : (c.skip xs.length).rest = ys ++ rest := by
    rw [Cursor.skip_rest, h, List.drop_left]
  have first := hr c (ys ++ rest) h
  have second := hf (c.skip xs.length) rest behind
  rw [Cursor.skip_skip] at second
  rw [List.length_append, ← second]
  simp only [Bind.bind, EStateM.bind, first]

theorem Takes.map {r : Read α} {bytes : List UInt8} {a : α} (f : α → β) (h : Takes r bytes a) :
    Takes (f <$> r) bytes (f a) := by
  intro c rest hc
  simp only [Functor.map, EStateM.map, h c rest hc]

/-- From the start of its bytes a read ends at the end of them. -/
theorem Takes.start {r : Read α} {bytes : List UInt8} {a : α} (h : Takes r bytes a)
    (rest : List UInt8) : ∃ c, r (Cursor.start (bytes ++ rest)) = .ok a c ∧
      c.position = bytes.length ∧ c.rest = rest := by
  refine ⟨_, h (Cursor.start (bytes ++ rest)) rest rfl, ?_, ?_⟩
  · exact Cursor.position_start_skip (by simp)
  · simp

theorem takes_take (bytes : List UInt8) (what : String) :
    Takes (take bytes.length what) bytes bytes := by
  intro c rest h
  have head : c.rest.take bytes.length = bytes := by rw [h, List.take_left]
  simp only [take, head, Nat.lt_irrefl, if_false]

theorem takes_number (n w : Nat) (what : String) :
    Takes (number n what) (BigEndian.encode n w) (w % Nat.pow 256 n) := by
  have h := (takes_take (BigEndian.encode n w) what).map BigEndian.decode
  rw [BigEndian.length_encode, BigEndian.decode_encode] at h
  exact h

/-- A number of `n` bytes, made into a value of the type that has that width. -/
theorem takes_sized {n w : Nat} {what : String} {f : Nat → α} {a : α}
    (h : f (w % Nat.pow 256 n) = a) :
    Takes (f <$> number n what) (BigEndian.encode n w) a := by
  have taken := (takes_number n w what).map f
  rwa [h] at taken

theorem takes_unsignedByte (b : UInt8) : Takes unsignedByte [b] b := by
  have h : Takes unsignedByte (BigEndian.encode 1 b.toNat) b :=
    takes_sized (by
      apply UInt8.toNat_inj.mp
      simp)
  have single : BigEndian.encode 1 b.toNat = [b] := by simp [BigEndian.encode]
  rwa [single] at h

theorem takes_byte (v : Int8) : Takes byte (encodeByte v) v :=
  takes_sized (by
    apply Int8.toBitVec_inj.mp
    apply BitVec.eq_of_toNat_eq
    simpa using v.toBitVec.isLt)

theorem takes_boolean (v : Bool) : Takes boolean (encodeBoolean v) v :=
  takes_sized (by cases v <;> rfl)

theorem takes_short (v : Int16) : Takes short (encodeShort v) v :=
  takes_sized (by
    apply Int16.toBitVec_inj.mp
    apply BitVec.eq_of_toNat_eq
    simpa using v.toBitVec.isLt)

theorem takes_int (v : Int32) : Takes int (encodeInt v) v :=
  takes_sized (by
    apply Int32.toBitVec_inj.mp
    apply BitVec.eq_of_toNat_eq
    simpa using v.toBitVec.isLt)

theorem takes_long (v : Int64) : Takes long (encodeLong v) v :=
  takes_sized (by
    apply Int64.toBitVec_inj.mp
    apply BitVec.eq_of_toNat_eq
    simpa using v.toBitVec.isLt)

theorem takes_float (bits : UInt32) : Takes float (encodeFloat bits) bits :=
  takes_sized (by
    apply UInt32.toNat_inj.mp
    simp)

theorem takes_double (bits : UInt64) : Takes double (encodeDouble bits) bits :=
  takes_sized (by
    apply UInt64.toNat_inj.mp
    simp)

theorem takes_unsignedShort {n : Nat} (h : n ≤ 0xFFFF) :
    Takes unsignedShort (BigEndian.encode 2 n) (UInt16.ofNat n) :=
  takes_sized (by rw [Nat.mod_eq_of_lt (by simp; omega)])

theorem takes_count {n : Nat} (h : n ≤ maxCount) :
    Takes int (BigEndian.encode 4 n) (Int32.ofNat n) :=
  takes_sized (by
    unfold maxCount at h
    rw [Nat.mod_eq_of_lt (by simp; omega)])

theorem toInt_count {n : Nat} (h : n ≤ maxCount) : (Int32.ofNat n).toInt = n :=
  Int32.toInt_ofNat_of_lt (by unfold maxCount at h; omega)

theorem takes_char {c : Char} {bytes : List UInt8} (h : encodeChar c = .ok bytes) :
    Takes char bytes c := by
  unfold encodeChar at h
  split at h
  · rename_i small
    have unit : (UInt16.ofNat c.toNat).toNat = c.toNat :=
      Text.Utf16.toNat_ofNat_of_lt (by omega)
    obtain ⟨high, low⟩ := Text.Utf16.not_surrogate_of_toNat c unit
    cases h
    have number := takes_number 2 c.toNat "char"
    rw [Nat.mod_eq_of_lt (by simp; omega)] at number
    rw [← List.append_nil (BigEndian.encode 2 c.toNat)]
    refine number.bind ?_
    simp only [high, low, unit, Char.ofNat_toNat, Bool.or_self, Bool.false_eq_true, if_false]
    exact Takes.pure c
  · cases h

theorem takes_string {s : String} {bytes : List UInt8} (h : encodeString s = .ok bytes) :
    Takes string bytes s := by
  unfold encodeString at h
  dsimp only at h
  split at h
  · rename_i short
    cases h
    intro c rest hc
    have hc' : c.rest = BigEndian.encode 2 (ModifiedUtf8.encode s).length ++
        (ModifiedUtf8.encode s ++ rest) := by
      rw [hc, List.append_assoc]
    have behind : (c.skip 2).rest = ModifiedUtf8.encode s ++ rest := by
      rw [Cursor.skip_rest, hc', List.drop_append_of_le_length (by simp),
        List.drop_of_length_le (by simp), List.nil_append]
    have length := takes_unsignedShort short c _ hc'
    have content := takes_take (ModifiedUtf8.encode s) "string" (c.skip 2) rest behind
    have size : (UInt16.ofNat (ModifiedUtf8.encode s).length).toNat =
        (ModifiedUtf8.encode s).length := Text.Utf16.toNat_ofNat_of_lt (by omega)
    rw [BigEndian.length_encode] at length
    simp only [string, length, size, content, ModifiedUtf8.decode_encode, Cursor.skip_skip,
      List.length_append, BigEndian.length_encode]
  · cases h

theorem takes_array {content bytes : List UInt8} (h : encodeArray content = .ok bytes) :
    Takes array bytes content := by
  unfold encodeArray at h
  split at h
  · rename_i short
    cases h
    refine (takes_count short).bind ?_
    rw [toInt_count short, if_neg (by omega), Int.toNat_natCast]
    exact takes_take content "byte array"
  · cases h

theorem takes_payload {v : Value} {bytes : List UInt8} (h : encodePayload v = .ok bytes) :
    Takes (payload v.type) bytes v := by
  cases v with
  | null => cases h; exact Takes.pure _
  | boolean v => cases h; exact (takes_boolean v).map _
  | byte v => cases h; exact (takes_byte v).map _
  | char c => exact (takes_char h).map _
  | short v => cases h; exact (takes_short v).map _
  | int v => cases h; exact (takes_int v).map _
  | long v => cases h; exact (takes_long v).map _
  | float bits => cases h; exact (takes_float bits).map _
  | double bits => cases h; exact (takes_double bits).map _
  | string s => exact (takes_string h).map _
  | bytes b => exact (takes_array h).map _

theorem takes_value {v : Value} {bytes : List UInt8} (h : encodeValue v = .ok bytes) :
    Takes value bytes v := by
  unfold encodeValue at h
  cases hp : encodePayload v with
  | error e => rw [hp] at h; cases h
  | ok content =>
    rw [hp] at h
    cases h
    have tagged : Takes value ([v.type.tag] ++ content) v := by
      refine (takes_unsignedByte v.type.tag).bind ?_
      rw [ValueType.ofTag?_tag]
      exact takes_payload hp
    exact tagged

end Read

end Courier.Wire
