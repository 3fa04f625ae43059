import Courier.Proofs.Wire.Advancing
import Courier.Proofs.Wire.Canonical

/-!
# Encoding what was read

Reading accepts more than encoding makes: any byte but zero stands for true, and strings may be in
loose modified UTF-8. A value that was read from other bytes is encoded as these very bytes.
-/

namespace Courier.Wire

set_option autoImplicit false

namespace BigEndian

theorem foldl_decode (a : Nat) (bytes : List UInt8) :
    bytes.foldl (fun w b => w * 256 + b.toNat) a =
      a * Nat.pow 256 bytes.length + decode bytes := by
  induction bytes generalizing a with
  | nil => simp [decode]
  | cons b bytes ih =>
    have step : Nat.pow 256 (b :: bytes).length = 256 * Nat.pow 256 bytes.length :=
      Nat.pow_succ'
    rw [decode, List.foldl_cons, List.foldl_cons, ih, ih, step, Nat.zero_mul, Nat.zero_add,
      Nat.add_mul, Nat.mul_assoc, Nat.add_assoc]

theorem decode_cons (b : UInt8) (bytes : List UInt8) :
    decode (b :: bytes) = b.toNat * Nat.pow 256 bytes.length + decode bytes := by
  rw [decode, List.foldl_cons, foldl_decode, Nat.zero_mul, Nat.zero_add]

theorem decode_lt (bytes : List UInt8) : decode bytes < Nat.pow 256 bytes.length := by
  induction bytes with
  | nil => exact Nat.one_pos
  | cons b bytes ih =>
    have step : Nat.pow 256 (b :: bytes).length = 256 * Nat.pow 256 bytes.length :=
      Nat.pow_succ'
    have byte : b.toNat + 1 ≤ 256 := b.toNat_lt
    have room := Nat.mul_le_mul_right (Nat.pow 256 bytes.length) byte
    rw [Nat.add_mul, Nat.one_mul] at room
    rw [decode_cons, step]
    omega

theorem encode_one (w : Nat) : encode 1 w = [UInt8.ofNat w] := by
  rw [encode, encode, show Nat.pow 256 0 = 1 from rfl, Nat.div_one]

/-- What stands above the bytes that are written does not matter. -/
theorem encode_add_mul (n a w : Nat) : encode n (a * Nat.pow 256 n + w) = encode n w := by
  induction n generalizing a with
  | zero => rfl
  | succ n ih =>
    have step : a * Nat.pow 256 (n + 1) = a * 256 * Nat.pow 256 n := by
      rw [Nat.mul_assoc]
      exact congrArg (a * ·) Nat.pow_succ'
    have byte : UInt8.ofNat (a * 256 + w / Nat.pow 256 n) = UInt8.ofNat (w / Nat.pow 256 n) := by
      apply UInt8.toNat_inj.mp
      rw [UInt8.toNat_ofNat', UInt8.toNat_ofNat']
      omega
    have positive : 0 < Nat.pow 256 n := Nat.pow_pos (by decide)
    rw [encode, encode, step, ih, Nat.mul_comm (a * 256), Nat.mul_add_div positive, byte]

theorem encode_decode (bytes : List UInt8) : encode bytes.length (decode bytes) = bytes := by
  induction bytes with
  | nil => rfl
  | cons b bytes ih =>
    have positive : 0 < Nat.pow 256 bytes.length := Nat.pow_pos (by decide)
    have lead : (b.toNat * Nat.pow 256 bytes.length + decode bytes) / Nat.pow 256 bytes.length =
        b.toNat := by
      rw [Nat.mul_comm, Nat.mul_add_div positive, Nat.div_eq_of_lt (decode_lt bytes), Nat.add_zero]
    rw [List.length_cons, encode, decode_cons, lead, encode_add_mul, ih, UInt8.ofNat_toNat]

end BigEndian

/-- How a value may be spelled behind its tag: as it is encoded, a boolean by any byte, and a string
by any bytes that are read as it. -/
inductive Spelling : Value → List UInt8 → Prop
  | exact {v : Value} {bytes : List UInt8} (h : encodePayload v = .ok bytes) : Spelling v bytes
  | boolean (x : UInt8) : Spelling (.boolean (x != 0)) [x]
  | string {s : String} {content : List UInt8} (short : content.length ≤ 0xFFFF)
      (h : ModifiedUtf8.decode content = .ok s) :
      Spelling (.string s) (BigEndian.encode 2 content.length ++ content)

namespace Read

variable {α β : Type}

/-- What `r` reads it has taken from bytes that spell it. -/
def Spells (r : Read α) (spelling : α → List UInt8 → Prop) : Prop :=
  ∀ (c c' : Cursor) (a : α), r c = .ok a c' →
    ∃ bytes, spelling a bytes ∧ bytes <+: c.rest ∧ c' = c.skip bytes.length

theorem Spells.pure {a : α} {spelling : α → List UInt8 → Prop} (h : spelling a []) :
    Spells (pure a) spelling := by
  intro c c' b read
  cases read
  exact ⟨[], h, List.nil_prefix, rfl⟩

theorem Spells.throw {spelling : α → List UInt8 → Prop} (e : Error) :
    Spells (throw e) spelling := by
  intro c c' a read
  cases read

theorem Spells.throw_bind {spelling : β → List UInt8 → Prop} (e : Error) (f : α → Read β) :
    Spells ((MonadExcept.throw e : Read α) >>= f) spelling := by
  intro c c' b read
  cases read

theorem Spells.of_ok {r r' : Read α} {spelling : α → List UInt8 → Prop}
    (h : ∀ {c c' : Cursor} {a : α}, r c = .ok a c' → r' c = .ok a c') (hr : Spells r' spelling) :
    Spells r spelling := fun c c' a read => hr c c' a (h read)

theorem Spells.bind {r : Read α} {f : α → Read β} {front : α → List UInt8 → Prop}
    {spelling : β → List UInt8 → Prop} (hr : Spells r front)
    (hf : ∀ a xs, front a xs → Spells (f a) fun b ys => spelling b (xs ++ ys)) :
    Spells (r >>= f) spelling := by
  intro c c' b read
  simp only [Bind.bind, EStateM.bind] at read
  cases first : r c with
  | error e c₁ => rw [first] at read; cases read
  | ok a c₁ =>
    rw [first] at read
    obtain ⟨xs, spelled, before, rfl⟩ := hr c c₁ a first
    obtain ⟨ys, whole, behind, rfl⟩ := hf a xs spelled (c.skip xs.length) c' b read
    refine ⟨xs ++ ys, whole, ?_, ?_⟩
    · obtain ⟨rest, same⟩ := before
      rw [Cursor.skip_rest, ← same, List.drop_left] at behind
      rw [← same]
      exact (List.prefix_append_right_inj xs).mpr behind
    · rw [Cursor.skip_skip, List.length_append]

theorem Spells.map {r : Read α} {f : α → β} {front : α → List UInt8 → Prop}
    {spelling : β → List UInt8 → Prop} (hr : Spells r front)
    (hf : ∀ a bytes, front a bytes → spelling (f a) bytes) : Spells (f <$> r) spelling := by
  intro c c' b read
  simp only [Functor.map, EStateM.map] at read
  cases first : r c with
  | error e c₁ => rw [first] at read; cases read
  | ok a c₁ =>
    rw [first] at read
    cases read
    obtain ⟨bytes, spelled, rest⟩ := hr c c' a first
    exact ⟨bytes, hf a bytes spelled, rest⟩

theorem Spells.ite {p : Prop} [Decidable p] {r r' : Read α} {spelling : α → List UInt8 → Prop}
    (h : p → Spells r spelling) (h' : ¬ p → Spells r' spelling) :
    Spells (if p then r else r') spelling := by
  split
  · rename_i holds
    exact h holds
  · rename_i fails
    exact h' fails

theorem spells_take (n : Nat) (what : String) :
    Spells (take n what) fun a bytes => a = bytes ∧ bytes.length = n := by
  intro c c' a read
  obtain ⟨enough, rfl, rfl⟩ := take_ok read
  have size : (c.rest.take n).length = n := List.length_take_of_le enough
  exact ⟨c.rest.take n, ⟨rfl, size⟩, List.take_prefix n c.rest, by rw [size]⟩

theorem spells_number (n : Nat) (what : String) :
    Spells (number n what) fun w bytes => w < Nat.pow 256 n ∧ bytes = BigEndian.encode n w := by
  refine (spells_take n what).map ?_
  rintro _ bytes ⟨rfl, rfl⟩
  exact ⟨BigEndian.decode_lt _, (BigEndian.encode_decode _).symm⟩

/-- A number of `n` bytes made into a value of the type that has that width, seen from the number
that the value is written as. -/
theorem spells_sized {n : Nat} {what : String} {f : Nat → α} (written : α → Nat)
    (h : ∀ w, w < Nat.pow 256 n → written (f w) = w) :
    Spells (f <$> number n what) fun a bytes => bytes = BigEndian.encode n (written a) := by
  refine (spells_number n what).map ?_
  rintro w bytes ⟨small, rfl⟩
  rw [h w small]

theorem spells_unsignedByte : Spells unsignedByte fun b bytes => bytes = [b] := by
  refine (spells_number 1 "byte").map ?_
  rintro w bytes ⟨small, rfl⟩
  exact BigEndian.encode_one w

theorem spells_boolean :
    Spells boolean fun v bytes => ∃ x : UInt8, v = (x != 0) ∧ bytes = [x] := by
  refine (spells_number 1 "boolean").map ?_
  rintro w bytes ⟨small, rfl⟩
  have byte : (UInt8.ofNat w).toNat = w := ModifiedUtf8.toNat_byte small
  refine ⟨UInt8.ofNat w, ?_, BigEndian.encode_one w⟩
  rw [Bool.eq_iff_iff, bne_iff_ne, bne_iff_ne, ne_eq, ne_eq, ← UInt8.toNat_inj, byte]
  rfl

theorem spells_char : Spells char fun c bytes => encodeChar c = .ok bytes := by
  refine (spells_number 2 "char").bind ?_
  rintro w xs ⟨small, rfl⟩
  have unit : (UInt16.ofNat w).toNat = w := Text.Utf16.toNat_ofNat_of_lt small
  refine Spells.ite (fun _ => Spells.throw_bind _ _) ?_
  intro plain
  refine Spells.pure ?_
  rw [Bool.or_eq_true, not_or, Text.Utf16.isHigh_iff, Text.Utf16.isLow_iff, unit] at plain
  have narrow : w ≤ 0xFFFF := Nat.le_of_lt_succ small
  have code := Text.Utf16.toNat_ofNat_of_range (n := w) (by omega)
  rw [unit, encodeChar, code, if_pos narrow, List.append_nil]

theorem spells_unsignedShort :
    Spells unsignedShort fun v bytes => bytes = BigEndian.encode 2 v.toNat :=
  spells_sized UInt16.toNat fun _ small => Text.Utf16.toNat_ofNat_of_lt small

theorem spells_int : Spells int fun v bytes => bytes = encodeInt v :=
  spells_sized (fun v : Int32 => v.toBitVec.toNat) fun w small => by
    simpa using Nat.mod_eq_of_lt small

/-- When it succeeds, reading a string is reading its length and then its content. -/
theorem string_ok {c c' : Cursor} {s : String} (h : string c = .ok s c') :
    (do
      let length ← unsignedShort
      let content ← take length.toNat "string"
      match ModifiedUtf8.decode content with
      | .ok s => pure s
      | .error e => throw e : Read String) c = .ok s c' := by
  unfold string at h
  simp only [Bind.bind, EStateM.bind]
  cases first : unsignedShort c with
  | error e c₁ => rw [first] at h; cases h
  | ok length c₁ =>
    rw [first] at h
    dsimp only at h ⊢
    cases second : take length.toNat "string" c₁ with
    | error e c₂ => rw [second] at h; cases h
    | ok content c₂ =>
      rw [second] at h
      dsimp only at h ⊢
      cases decoded : ModifiedUtf8.decode content with
      | error e => rw [decoded] at h; cases h
      | ok t =>
        rw [decoded] at h
        cases h
        rfl

theorem spells_string :
    Spells string fun s bytes => ∃ content, content.length ≤ 0xFFFF ∧
      ModifiedUtf8.decode content = .ok s ∧
      bytes = BigEndian.encode 2 content.length ++ content := by
  refine Spells.of_ok string_ok ?_
  refine spells_unsignedShort.bind ?_
  rintro length xs rfl
  refine (spells_take _ _).bind ?_
  rintro content _ ⟨rfl, size⟩
  cases decoded : ModifiedUtf8.decode content with
  | error e => exact Spells.throw e
  | ok t =>
    refine Spells.pure ⟨content, ?_, decoded, ?_⟩
    · rw [size]
      exact Nat.le_of_lt_succ length.toNat_lt
    · rw [size, List.append_nil]

theorem spells_array : Spells array fun content bytes => encodeArray content = .ok bytes := by
  refine spells_int.bind ?_
  rintro length xs rfl
  refine Spells.ite (fun _ => Spells.throw_bind _ _) ?_
  intro positive c c' content read
  obtain ⟨bytes, ⟨rfl, size⟩, rest⟩ := spells_take _ _ c c' content read
  refine ⟨content, ?_, rest⟩
  have range := length.toBitVec.isLt
  have sign : length.toInt = if 2 * length.toBitVec.toNat < 2 ^ 32 then
      (length.toBitVec.toNat : Int) else (length.toBitVec.toNat : Int) - (2 ^ 32 : Nat) :=
    BitVec.toInt_eq_toNat_cond length.toBitVec
  have short : length.toBitVec.toNat ≤ maxCount := by
    unfold maxCount
    split at sign <;> omega
  have number : length.toBitVec.toNat = content.length := by
    rw [if_pos (by unfold maxCount at short; omega)] at sign
    omega
  rw [number] at short
  simp only [encodeArray, if_pos short, encodeInt, number]

/-- A value of fixed width is spelled as it is encoded. -/
theorem spells_fixed {n : Nat} {what : String} {f : Nat → α} {make : α → Value}
    {type : ValueType} (written : α → Nat) (h : ∀ w, w < Nat.pow 256 n → written (f w) = w)
    (encoded : ∀ a, (make a).type = type ∧
      encodePayload (make a) = .ok (BigEndian.encode n (written a))) :
    Spells (make <$> f <$> number n what) fun v bytes => v.type = type ∧ Spelling v bytes := by
  refine (spells_sized written h).map ?_
  rintro a _ rfl
  exact ⟨(encoded a).1, .exact (encoded a).2⟩

theorem spells_payload (type : ValueType) :
    Spells (payload type) fun v bytes => v.type = type ∧ Spelling v bytes := by
  cases type with
  | null => exact Spells.pure ⟨rfl, .exact rfl⟩
  | boolean =>
    refine spells_boolean.map ?_
    rintro _ _ ⟨x, rfl, rfl⟩
    exact ⟨rfl, .boolean x⟩
  | byte =>
    refine spells_fixed (fun v : Int8 => v.toBitVec.toNat) ?_ fun v => ⟨rfl, rfl⟩
    exact fun w small => by simpa using Nat.mod_eq_of_lt small
  | char => exact spells_char.map fun c bytes encoded => ⟨rfl, .exact encoded⟩
  | short =>
    refine spells_fixed (fun v : Int16 => v.toBitVec.toNat) ?_ fun v => ⟨rfl, rfl⟩
    exact fun w small => by simpa using Nat.mod_eq_of_lt small
  | int =>
    refine spells_fixed (fun v : Int32 => v.toBitVec.toNat) ?_ fun v => ⟨rfl, rfl⟩
    exact fun w small => by simpa using Nat.mod_eq_of_lt small
  | long =>
    refine spells_fixed (fun v : Int64 => v.toBitVec.toNat) ?_ fun v => ⟨rfl, rfl⟩
    exact fun w small => by simpa using Nat.mod_eq_of_lt small
  | float =>
    refine spells_fixed UInt32.toNat ?_ fun bits => ⟨rfl, rfl⟩
    exact fun w small => by simpa using Nat.mod_eq_of_lt small
  | double =>
    refine spells_fixed UInt64.toNat ?_ fun bits => ⟨rfl, rfl⟩
    exact fun w small => by simpa using Nat.mod_eq_of_lt small
  | string =>
    refine spells_string.map ?_
    rintro s _ ⟨content, short, decoded, rfl⟩
    exact ⟨rfl, .string short decoded⟩
  | bytes => exact spells_array.map fun content bytes encoded => ⟨rfl, .exact encoded⟩

theorem tag_of_ofTag? {tag : UInt8} {type : ValueType} (h : ValueType.ofTag? tag = some type) :
    type.tag = tag := by
  have found := List.find?_some h
  exact eq_of_beq found

theorem spells_value :
    Spells value fun v bytes => ∃ content, bytes = v.type.tag :: content ∧ Spelling v content := by
  refine spells_unsignedByte.bind ?_
  rintro tag _ rfl
  cases announced : ValueType.ofTag? tag with
  | none => exact Spells.throw _
  | some type =>
    intro c c' v read
    obtain ⟨content, ⟨same, spelled⟩, rest⟩ := spells_payload type c c' v read
    refine ⟨content, ⟨content, ?_, spelled⟩, rest⟩
    rw [same, tag_of_ofTag? announced]
    rfl

/-- What was consumed of `data` spells the value. -/
theorem exists_spelling {data : List UInt8} {v : Value} {c : Cursor}
    (h : value (Cursor.start data) = .ok v c) :
    ∃ content, data.take c.position = v.type.tag :: content ∧ Spelling v content := by
  obtain ⟨bytes, ⟨content, same, spelled⟩, before, rfl⟩ := spells_value _ _ _ h
  have front : bytes <+: data := before
  refine ⟨content, ?_, spelled⟩
  rw [Cursor.position_start_skip front.length_le, ← same]
  exact List.prefix_iff_eq_take.mp front |>.symm

end Read

/-- A boolean spelled by a byte that encoding does not use. -/
def LooseBoolean (bytes : List UInt8) : Prop :=
  ∃ x : UInt8, bytes = [ValueType.boolean.tag, x] ∧ x ≠ 0 ∧ x ≠ 1

/-- A string in modified UTF-8 that is not canonical. -/
def LooseString (bytes : List UInt8) : Prop :=
  ∃ high low content, bytes = ValueType.string.tag :: high :: low :: content ∧
    ¬ ModifiedUtf8.Canonical content

theorem not_looseBoolean {v : Value} {content : List UInt8} (h : encodePayload v = .ok content) :
    ¬ LooseBoolean (v.type.tag :: content) := by
  rintro ⟨x, same, not0, not1⟩
  obtain ⟨tag, rfl⟩ := List.cons_eq_cons.mp same
  cases v with
  | boolean v =>
    cases v <;> cases h
    · exact not0 rfl
    · exact not1 rfl
  | _ => cases tag

theorem looseString_iff {content : List UInt8} (n : Nat) :
    LooseString (ValueType.string.tag :: (BigEndian.encode 2 n ++ content)) ↔
      ¬ ModifiedUtf8.Canonical content := by
  constructor
  · rintro ⟨high, low, content', same, loose⟩
    cases same
    exact loose
  · exact fun loose => ⟨_, _, content, rfl, loose⟩

theorem not_looseString {v : Value} {content : List UInt8} (h : encodePayload v = .ok content) :
    ¬ LooseString (v.type.tag :: content) := by
  cases v with
  | string s =>
    simp only [encodePayload, encodeString] at h
    split at h
    · cases h
      rw [Value.type, looseString_iff, not_not]
      exact (ModifiedUtf8.encode_eq_iff (ModifiedUtf8.decode_encode s)).mp rfl
    · cases h
  | _ =>
    rintro ⟨high, low, content', same, -⟩
    cases (List.cons_eq_cons.mp same).1

theorem encodeValue_eq_iff (v : Value) (content : List UInt8) :
    encodeValue v = .ok (v.type.tag :: content) ↔ encodePayload v = .ok content := by
  rw [encodeValue]
  cases encodePayload v with
  | error e => simp [Except.map]
  | ok bytes => simp [Except.map]

theorem encodeBoolean_iff (x : UInt8) : encodeBoolean (x != 0) = [x] ↔ x = 0 ∨ x = 1 := by
  by_cases zero : x = 0
  · subst zero
    decide
  · have holds : (x != 0) = true := bne_iff_ne.mpr zero
    have one : encodeBoolean true = [1] := rfl
    rw [holds, one, List.cons_eq_cons]
    simp [zero, eq_comm]

theorem encodeString_iff {s : String} {content : List UInt8} (short : content.length ≤ 0xFFFF)
    (h : ModifiedUtf8.decode content = .ok s) :
    encodeString s = .ok (BigEndian.encode 2 content.length ++ content) ↔
      ModifiedUtf8.Canonical content := by
  rw [← ModifiedUtf8.encode_eq_iff h]
  constructor
  · intro encoded
    unfold encodeString at encoded
    dsimp only at encoded
    split at encoded
    · exact (List.append_inj (Except.ok.inj encoded) (by simp)).2
    · cases encoded
  · rintro rfl
    simp only [encodeString, if_pos short]

/-- A value is encoded as it was spelled unless it was spelled loosely. -/
theorem Spelling.encodeValue_iff {v : Value} {content : List UInt8} (h : Spelling v content) :
    encodeValue v = .ok (v.type.tag :: content) ↔
      ¬ LooseBoolean (v.type.tag :: content) ∧ ¬ LooseString (v.type.tag :: content) := by
  rw [encodeValue_eq_iff]
  cases h with
  | exact h => exact iff_of_true h ⟨not_looseBoolean h, not_looseString h⟩
  | boolean x =>
    have noString : ¬ LooseString ((Value.boolean (x != 0)).type.tag :: [x]) := by
      rintro ⟨high, low, content, same, -⟩
      cases same
    have loose : LooseBoolean ((Value.boolean (x != 0)).type.tag :: [x]) ↔ x ≠ 0 ∧ x ≠ 1 := by
      constructor
      · rintro ⟨y, same, other⟩
        cases same
        exact other
      · exact fun other => ⟨x, rfl, other⟩
    rw [loose, encodePayload, Except.ok.injEq, encodeBoolean_iff]
    simp only [noString, not_false_iff, and_true, not_and_or, not_not]
  | @string s content short h =>
    have noBoolean : ¬ LooseBoolean
        ((Value.string s).type.tag :: (BigEndian.encode 2 content.length ++ content)) := by
      rintro ⟨x, same, -⟩
      cases (List.cons_eq_cons.mp same).1
    rw [encodePayload, encodeString_iff short h, Value.type, looseString_iff, not_not]
    exact ⟨fun canonical => ⟨noBoolean, canonical⟩, And.right⟩

/-- Only a string can be read that has no encoding: one with a raw zero, which takes two bytes. -/
theorem Spelling.encodeValue_error {v : Value} {content : List UInt8} {e : Error}
    (h : Spelling v content) (failed : encodeValue v = .error e) :
    ∃ s high low text, v = .string s ∧ content = high :: low :: text ∧
      65535 < (ModifiedUtf8.encode s).length ∧ 0 ∈ text := by
  have oversized := (encodeValue_error_iff v).mp ⟨e, failed⟩
  cases h with
  | exact h =>
    rw [(encodeValue_eq_iff v content).mpr h] at failed
    cases failed
  | boolean x => exact oversized.elim
  | @string s text short h =>
    refine ⟨s, _, _, text, rfl, rfl, oversized, ?_⟩
    by_contra noZero
    have length := ModifiedUtf8.length_encode_le h noZero
    have large : 65535 < (ModifiedUtf8.encode s).length := oversized
    omega

/-- Of a value that was read from `data`, with what was consumed: it has no encoding only if it is
a string whose canonical form is too long, which takes a raw zero in what was consumed; else its
encoding is read as that value again. What was consumed is the encoding unless it is a loose
boolean or a loose string. -/
theorem encoding_of_read (data : List UInt8) (v : Value) (c : Cursor)
    (read : Read.value (Cursor.start data) = .ok v c) :
    (∀ e, encodeValue v = .error e → ∃ s high low text, v = .string s ∧
      data.take c.position = ValueType.string.tag :: high :: low :: text ∧
      65535 < (ModifiedUtf8.encode s).length ∧ 0 ∈ text) ∧
    (∀ bytes, encodeValue v = .ok bytes → decodeValue bytes = .ok v) ∧
    (encodeValue v = .ok (data.take c.position) ↔
      ¬ LooseBoolean (data.take c.position) ∧ ¬ LooseString (data.take c.position)) := by
  obtain ⟨content, consumed, spelled⟩ := Read.exists_spelling read
  rw [consumed]
  refine ⟨?_, ?_, spelled.encodeValue_iff⟩
  · intro e failed
    obtain ⟨s, high, low, text, rfl, rfl, large, zero⟩ := spelled.encodeValue_error failed
    exact ⟨s, high, low, text, rfl, rfl, large, zero⟩
  · intro bytes encoded
    obtain ⟨c', again, -, -⟩ := (Read.takes_value encoded).start []
    rw [List.append_nil] at again
    simp only [decodeValue, Read.runOn, again]

/-- True spelled by a seven is not encoded so; an overlong `A` in front of another byte is encoded
in a form that is read as the same string. -/
theorem encoding_of_read_loose :
    Read.value (Cursor.start [1, 7]) = .ok (.boolean true) ((Cursor.start [1, 7]).skip 2) ∧
    encodeValue (.boolean true) ≠ .ok [1, 7] ∧
    Read.value (Cursor.start [9, 0, 2, 0xC1, 0x81, 7]) =
      .ok (.string "A") ((Cursor.start [9, 0, 2, 0xC1, 0x81, 7]).skip 5) ∧
    encodeValue (.string "A") = .ok [9, 0, 1, 65] ∧
    decodeValue [9, 0, 1, 65] = .ok (.string "A") := by
  have seven : Read.value (Cursor.start [1, 7]) =
      .ok (.boolean true) ((Cursor.start [1, 7]).skip 2) := by
    rfl
  have letter : Read.value (Cursor.start [9, 0, 2, 0xC1, 0x81, 7]) =
      .ok (.string "A") ((Cursor.start [9, 0, 2, 0xC1, 0x81, 7]).skip 5) := by
    rfl
  have encoded : encodeValue (.string "A") = .ok [9, 0, 1, 65] := by rfl
  refine ⟨seven, ?_, letter, encoded, (encoding_of_read _ _ _ letter).2.1 _ encoded⟩
  intro same
  exact ((encoding_of_read _ _ _ seven).2.2.mp same).1 ⟨7, rfl, by decide, by decide⟩

end Courier.Wire
