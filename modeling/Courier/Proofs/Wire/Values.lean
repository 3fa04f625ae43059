import Courier.Proofs.Wire.Reading

/-!
# Encoded values delimit themselves

An encoded value is read back as that value, and the read stops where the encoding ends, so
values written one after another are read one after another. A value has no encoding exactly
when a part of it is too large for its field.
-/

namespace Courier

set_option autoImplicit false

/-- A value some part of which is too large for its field on the wire. -/
def Value.Oversized : Value → Prop
  | .char c => 0xFFFF < c.toNat
  | .string s => 65535 < (Wire.ModifiedUtf8.encode s).length
  | .bytes b => 2147483647 < b.length
  | _ => False

namespace Wire

namespace Write

/-- Whatever was written before, `w` succeeds and appends `bytes`. -/
def Writes (w : Write) (bytes : List UInt8) : Prop :=
  ∀ out : List UInt8, w out = .ok () (out ++ bytes)

theorem Writes.nothing : Writes (pure ()) [] := by
  intro out
  rw [List.append_nil]
  rfl

theorem writes_raw (bytes : List UInt8) : Writes (raw bytes) bytes := fun _ => rfl

theorem writes_encoded {e : Except Error (List UInt8)} {bytes : List UInt8} (h : e = .ok bytes) :
    Writes (encoded e) bytes := by
  subst h
  exact writes_raw bytes

theorem Writes.andThen {w : Write} {next : Unit → Write} {xs ys : List UInt8} (h : Writes w xs)
    (h' : Writes (next ()) ys) : Writes (w >>= next) (xs ++ ys) := by
  intro out
  have second := h' (out ++ xs)
  rw [List.append_assoc] at second
  rw [← second]
  simp only [Bind.bind, EStateM.bind, h out]

theorem Writes.collect {w : Write} {bytes : List UInt8} (h : Writes w bytes) :
    w.collect = .ok bytes := by
  simp only [Write.collect, h [], List.nil_append]

end Write

namespace Read

/-- The same read `n` times over. -/
def times {α : Type} (r : Read α) : Nat → Read (List α)
  | 0 => return []
  | n + 1 => do
    let a ← r
    let as ← times r n
    return a :: as

end Read

/-! What is too large has no encoding, and nothing else lacks one. -/

theorem encodeChar_error_iff (c : Char) :
    (∃ e, encodeChar c = .error e) ↔ 0xFFFF < c.toNat := by
  unfold encodeChar
  split
  · simp; omega
  · simp; omega

theorem encodeString_error_iff (s : String) :
    (∃ e, encodeString s = .error e) ↔ 65535 < (ModifiedUtf8.encode s).length := by
  unfold encodeString
  dsimp only
  split
  · simp; omega
  · simp; omega

theorem encodeArray_error_iff (bytes : List UInt8) :
    (∃ e, encodeArray bytes = .error e) ↔ 2147483647 < bytes.length := by
  unfold encodeArray maxCount
  split
  · simp; omega
  · simp; omega

theorem encodePayload_error_iff (v : Value) :
    (∃ e, encodePayload v = .error e) ↔ v.Oversized := by
  cases v with
  | char c => exact encodeChar_error_iff c
  | string s => exact encodeString_error_iff s
  | bytes b => exact encodeArray_error_iff b
  | _ => simp [encodePayload, Value.Oversized]

theorem encodeValue_error_iff (v : Value) : (∃ e, encodeValue v = .error e) ↔ v.Oversized := by
  rw [← encodePayload_error_iff, encodeValue]
  cases encodePayload v <;> simp [Except.map]

theorem encodeString_error_kind {s : String} {e : Error} (h : encodeString s = .error e) :
    e.kind = .format := by
  unfold encodeString at h
  dsimp only at h
  split at h
  · cases h
  · cases h
    rfl

theorem encodePayload_error_kind {v : Value} {e : Error} (h : encodePayload v = .error e) :
    e.kind = .format := by
  cases v with
  | char c =>
    simp only [encodePayload, encodeChar] at h
    split at h
    · cases h
    · cases h
      rfl
  | string s => exact encodeString_error_kind h
  | bytes b =>
    simp only [encodePayload, encodeArray] at h
    split at h
    · cases h
    · cases h
      rfl
  | _ => cases h

theorem encodeValue_error_kind {v : Value} {e : Error} (h : encodeValue v = .error e) :
    e.kind = .format := by
  cases hp : encodePayload v with
  | error e' =>
    rw [encodeValue, hp] at h
    cases h
    exact encodePayload_error_kind hp
  | ok bytes =>
    rw [encodeValue, hp] at h
    cases h

/-- Accepted values, written one after another, are read back in that order. -/
theorem exists_writes_values (vs : List Value)
    (accepted : ∀ v ∈ vs, ∃ bytes, encodeValue v = .ok bytes) :
    ∃ bytes, Write.Writes (vs.forM Write.value) bytes ∧
      Read.Takes (Read.value.times vs.length) bytes vs := by
  induction vs with
  | nil => exact ⟨[], Write.Writes.nothing, Read.Takes.pure []⟩
  | cons v vs ih =>
    obtain ⟨first, hv⟩ := accepted v List.mem_cons_self
    obtain ⟨others, written, taken⟩ := ih fun w hw => accepted w (List.mem_cons_of_mem v hw)
    refine ⟨first ++ others, ?_, ?_⟩
    · exact (Write.writes_encoded hv).andThen written
    · refine (Read.takes_value hv).bind ?_
      rw [← List.append_nil others]
      exact taken.bind (Read.Takes.pure (v :: vs))

/-- The encoding of a value delimits itself: in front of any bytes it is read as that value and
the read stops at its end. Hence a list of accepted values comes back from the bytes written for
it, with nothing left. A value is refused, with a format error, exactly when it is oversized. -/
theorem value_self_delimiting :
    (∀ (v : Value) (bytes : List UInt8), encodeValue v = .ok bytes → ∀ rest : List UInt8,
      ∃ c, Read.value (Cursor.start (bytes ++ rest)) = .ok v c ∧
        c.position = bytes.length ∧ c.rest = rest) ∧
    (∀ vs : List Value, (∀ v ∈ vs, ∃ bytes, encodeValue v = .ok bytes) →
      ∃ bytes c, Write.collect (vs.forM Write.value) = .ok bytes ∧
        Read.value.times vs.length (Cursor.start bytes) = .ok vs c ∧ c.exhausted = true) ∧
    ∀ v : Value, ((∃ e, encodeValue v = .error e) ↔ v.Oversized) ∧
      ∀ e, encodeValue v = .error e → e.kind = .format := by
  refine ⟨?_, ?_, ?_⟩
  · intro v bytes h rest
    exact (Read.takes_value h).start rest
  · intro vs accepted
    obtain ⟨bytes, written, taken⟩ := exists_writes_values vs accepted
    obtain ⟨c, read, -, left⟩ := taken.start []
    rw [List.append_nil] at read
    exact ⟨bytes, c, written.collect, read, by rw [Cursor.exhausted, left]; rfl⟩
  · intro v
    exact ⟨encodeValue_error_iff v, fun e => encodeValue_error_kind⟩

/-- A long in front of other bytes, where the most negative number fills its field. -/
theorem value_self_delimiting_long :
    encodeValue (.long (-9223372036854775808)) = .ok [6, 0x80, 0, 0, 0, 0, 0, 0, 0] ∧
      ∃ c, Read.value (Cursor.start [6, 0x80, 0, 0, 0, 0, 0, 0, 0, 9]) =
        .ok (.long (-9223372036854775808)) c ∧ c.position = 9 ∧ c.rest = [9] := by
  have h : encodeValue (.long (-9223372036854775808)) = .ok [6, 0x80, 0, 0, 0, 0, 0, 0, 0] := by
    rfl
  exact ⟨h, value_self_delimiting.1 _ _ h [9]⟩

end Wire

end Courier
