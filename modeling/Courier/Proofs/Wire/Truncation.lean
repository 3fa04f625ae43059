import Courier.Proofs.Wire.Maps

/-!
# Cut and extended input

A read that did not run out of data never looks at what follows: with more bytes behind, it ends
in the same value or the same error at the same place. So a read of an encoding that was cut off
can only report the end of the data, since anything else would stand for the whole encoding too.
-/

namespace Courier.Wire

set_option autoImplicit false

namespace Cursor

/-- The same place in data that goes on with `more`. -/
def extend (c : Cursor) (more : List UInt8) : Cursor :=
  ⟨c.data ++ more, c.rest ++ more, by
    obtain ⟨before, h⟩ := c.suffix
    exact ⟨before, by rw [← List.append_assoc, h]⟩⟩

theorem extend_start (data more : List UInt8) :
    (start data).extend more = start (data ++ more) := rfl

theorem position_extend (c : Cursor) (more : List UInt8) :
    (c.extend more).position = c.position := by
  simp only [position, extend, List.length_append]
  omega

theorem extend_skip (c : Cursor) (more : List UInt8) {n : Nat} (h : n ≤ c.rest.length) :
    (c.extend more).skip n = (c.skip n).extend more := by
  simp only [skip, extend, List.drop_append_of_le_length h]

end Cursor

namespace Read

variable {α β : Type}

/-- Unless `r` runs out of data, more data changes nothing about how it ends. -/
structure Settled (r : Read α) : Prop where
  ok : ∀ {c c' : Cursor} {a : α} (more : List UInt8), r c = .ok a c' →
    r (c.extend more) = .ok a (c'.extend more)
  error : ∀ {c c' : Cursor} {e : Error} (more : List UInt8), r c = .error e c' →
    e.kind ≠ .endOfMessage → r (c.extend more) = .error e (c'.extend more)

theorem Settled.pure (a : α) : Settled (pure a : Read α) where
  ok more h := by cases h; rfl
  error more h := by cases h

theorem Settled.throw (e : Error) : Settled (throw e : Read α) where
  ok more h := by cases h
  error more h _ := by cases h; rfl

theorem Settled.bind {r : Read α} {f : α → Read β} (hr : Settled r) (hf : ∀ a, Settled (f a)) :
    Settled (r >>= f) where
  ok {c c' b} more h := by
    simp only [Bind.bind, EStateM.bind] at h ⊢
    cases first : r c with
    | error e c₁ => rw [first] at h; cases h
    | ok a c₁ =>
      rw [first] at h
      rw [hr.ok more first]
      exact (hf a).ok more h
  error {c c' e} more h kind := by
    simp only [Bind.bind, EStateM.bind] at h ⊢
    cases first : r c with
    | error e₁ c₁ =>
      rw [first] at h
      cases h
      rw [hr.error more first kind]
    | ok a c₁ =>
      rw [first] at h
      rw [hr.ok more first]
      exact (hf a).error more h kind

theorem Settled.map {r : Read α} (f : α → β) (hr : Settled r) : Settled (f <$> r) where
  ok {c c' b} more h := by
    simp only [Functor.map, EStateM.map] at h ⊢
    cases first : r c with
    | error e c₁ => rw [first] at h; cases h
    | ok a c₁ =>
      rw [first] at h
      cases h
      rw [hr.ok more first]
  error {c c' e} more h kind := by
    simp only [Functor.map, EStateM.map] at h ⊢
    cases first : r c with
    | error e₁ c₁ =>
      rw [first] at h
      cases h
      rw [hr.error more first kind]
    | ok a c₁ => rw [first] at h; cases h

theorem Settled.ite {p : Prop} [Decidable p] {r s : Read α} (hr : Settled r) (hs : Settled s) :
    Settled (if p then r else s) := by
  split
  · exact hr
  · exact hs

theorem take_ok {n : Nat} {what : String} {c c' : Cursor} {bytes : List UInt8}
    (h : take n what c = .ok bytes c') :
    n ≤ c.rest.length ∧ bytes = c.rest.take n ∧ c' = c.skip n := by
  unfold take at h
  dsimp only at h
  split at h
  · cases h
  · rename_i enough
    cases h
    rw [List.length_take] at enough
    exact ⟨by omega, rfl, rfl⟩

theorem take_error {n : Nat} {what : String} {c c' : Cursor} {e : Error}
    (h : take n what c = .error e c') : e.kind = .endOfMessage := by
  unfold take at h
  dsimp only at h
  split at h
  · cases h
    rfl
  · cases h

theorem take_extend {n : Nat} {c : Cursor} (more : List UInt8) (what : String)
    (h : n ≤ c.rest.length) :
    take n what (c.extend more) = .ok (c.rest.take n) ((c.skip n).extend more) := by
  have head : (c.extend more).rest.take n = c.rest.take n := List.take_append_of_le_length h
  have enough : ¬ (c.rest.take n).length < n := by
    rw [List.length_take]
    omega
  simp only [take, head, if_neg enough, Cursor.extend_skip c more h]

theorem settled_take (n : Nat) (what : String) : Settled (take n what) where
  ok {c c' bytes} more h := by
    obtain ⟨enough, rfl, rfl⟩ := take_ok h
    exact take_extend more what enough
  error more h kind := absurd (take_error h) kind

theorem settled_number (n : Nat) (what : String) : Settled (number n what) :=
  (settled_take n what).map _

theorem settled_char : Settled char := by
  refine (settled_number 2 "char").bind ?_
  intro unit
  exact ((Settled.throw _).bind fun _ => Settled.pure _).ite (Settled.pure _)

theorem settled_unsignedShort : Settled unsignedShort :=
  (settled_number 2 "unsigned short").map _

theorem settled_int : Settled int := (settled_number 4 "int").map _

/-- The one read that gives back what it has taken: only when it runs out of data. -/
theorem settled_string : Settled string where
  ok {c c' s} more h := by
    unfold string at h ⊢
    cases first : unsignedShort c with
    | error e c₁ => rw [first] at h; cases h
    | ok length c₁ =>
      rw [settled_unsignedShort.ok more first]
      rw [first] at h
      dsimp only at h ⊢
      cases content : take length.toNat "string" c₁ with
      | error e c₂ => rw [content] at h; cases h
      | ok bytes c₂ =>
        rw [(settled_take _ _).ok more content]
        rw [content] at h
        dsimp only at h ⊢
        cases decoded : ModifiedUtf8.decode bytes with
        | error e => rw [decoded] at h; cases h
        | ok s' => rw [decoded] at h; cases h; rfl
  error {c c' e} more h kind := by
    unfold string at h ⊢
    cases first : unsignedShort c with
    | error e₁ c₁ =>
      rw [first] at h
      cases h
      rw [settled_unsignedShort.error more first kind]
    | ok length c₁ =>
      rw [settled_unsignedShort.ok more first]
      rw [first] at h
      dsimp only at h ⊢
      cases content : take length.toNat "string" c₁ with
      | error e₂ c₂ =>
        rw [content] at h
        cases h
        exact absurd (take_error content) kind
      | ok bytes c₂ =>
        rw [(settled_take _ _).ok more content]
        rw [content] at h
        dsimp only at h ⊢
        cases decoded : ModifiedUtf8.decode bytes with
        | error e₃ => rw [decoded] at h; cases h; rfl
        | ok s => rw [decoded] at h; cases h

theorem settled_array : Settled array := by
  refine settled_int.bind ?_
  intro length
  exact ((Settled.throw _).bind fun _ => settled_take _ _).ite (settled_take _ _)

theorem settled_payload (type : ValueType) : Settled (payload type) := by
  cases type with
  | null => exact Settled.pure _
  | boolean => exact ((settled_number 1 "boolean").map _).map _
  | byte => exact ((settled_number 1 "byte").map _).map _
  | char => exact settled_char.map _
  | short => exact ((settled_number 2 "short").map _).map _
  | int => exact settled_int.map _
  | long => exact ((settled_number 8 "long").map _).map _
  | float => exact ((settled_number 4 "float").map _).map _
  | double => exact ((settled_number 8 "double").map _).map _
  | string => exact settled_string.map _
  | bytes => exact settled_array.map _

theorem settled_value : Settled value := by
  refine ((settled_number 1 "byte").map UInt8.ofNat).bind ?_
  intro tag
  cases ValueType.ofTag? tag with
  | none => exact Settled.throw _
  | some type => exact settled_payload type

theorem settled_entries (n : Nat) (table : Table String Value) : Settled (entries n table) := by
  induction n generalizing table with
  | zero => exact Settled.pure table
  | succ n ih =>
    refine settled_string.bind ?_
    intro k
    refine settled_value.bind ?_
    intro v
    exact ih (table.insert k v)

theorem settled_map : Settled map := by
  refine settled_int.bind ?_
  intro count
  exact ((Settled.throw _).bind fun _ => settled_entries _ _).ite (settled_entries _ _)

/-- What takes a whole encoding runs out of data on every shorter beginning of it. -/
theorem Settled.truncated {r : Read α} (settled : Settled r) {bytes cut : List UInt8} {a : α}
    (taken : Takes r bytes a) (h : cut <+: bytes) (shorter : cut ≠ bytes) :
    ∃ e c, r (Cursor.start cut) = .error e c ∧ e.kind = .endOfMessage := by
  obtain ⟨missing, rfl⟩ := h
  obtain ⟨c, whole, -, left⟩ := taken.start []
  rw [List.append_nil, ← Cursor.extend_start] at whole
  cases result : r (Cursor.start cut) with
  | error e c' =>
    refine ⟨e, c', rfl, ?_⟩
    by_cases kind : e.kind = .endOfMessage
    · exact kind
    · rw [settled.error missing result kind] at whole
      cases whole
  | ok b c' =>
    -- the whole read would end in front of what was cut off, and not behind it
    rw [settled.ok missing result] at whole
    cases whole
    obtain ⟨-, none⟩ := List.append_eq_nil_iff.mp left
    rw [none, List.append_nil] at shorter
    exact absurd rfl shorter

/-- However `r` ends on `data`, unless at the end of the data, it ends on longer data. -/
theorem Settled.extended {r : Read α} (settled : Settled r) (data more : List UInt8) :
    (∀ a c, r (Cursor.start data) = .ok a c →
      ∃ c', r (Cursor.start (data ++ more)) = .ok a c' ∧ c'.position = c.position) ∧
    ∀ e c, r (Cursor.start data) = .error e c → e.kind ≠ .endOfMessage →
      ∃ c', r (Cursor.start (data ++ more)) = .error e c' ∧ c'.position = c.position := by
  rw [← Cursor.extend_start]
  refine ⟨?_, ?_⟩
  · intro a c h
    exact ⟨_, settled.ok more h, Cursor.position_extend c more⟩
  · intro e c h kind
    exact ⟨_, settled.error more h kind, Cursor.position_extend c more⟩

end Read

/-- A read that takes encodings apart reports the end of the data on every beginning of one, and
whatever else it reports of any data it reports of longer data too, at the same place. -/
theorem truncated_or_final :
    (∀ (v : Value) (bytes : List UInt8), encodeValue v = .ok bytes →
      ∀ cut : List UInt8, cut <+: bytes → cut ≠ bytes →
        ∃ e c, Read.value (Cursor.start cut) = .error e c ∧ e.kind = .endOfMessage) ∧
    (∀ (m : Table String Value) (bytes : List UInt8), encodeMap m = .ok bytes →
      ∀ cut : List UInt8, cut <+: bytes → cut ≠ bytes →
        ∃ e c, Read.map (Cursor.start cut) = .error e c ∧ e.kind = .endOfMessage) ∧
    (∀ data more : List UInt8,
      (∀ v c, Read.value (Cursor.start data) = .ok v c →
        ∃ c', Read.value (Cursor.start (data ++ more)) = .ok v c' ∧ c'.position = c.position) ∧
      ∀ e c, Read.value (Cursor.start data) = .error e c → e.kind ≠ .endOfMessage →
        ∃ c', Read.value (Cursor.start (data ++ more)) = .error e c' ∧
          c'.position = c.position) ∧
    ∀ data more : List UInt8,
      (∀ m c, Read.map (Cursor.start data) = .ok m c →
        ∃ c', Read.map (Cursor.start (data ++ more)) = .ok m c' ∧ c'.position = c.position) ∧
      ∀ e c, Read.map (Cursor.start data) = .error e c → e.kind ≠ .endOfMessage →
        ∃ c', Read.map (Cursor.start (data ++ more)) = .error e c' ∧
          c'.position = c.position := by
  refine ⟨?_, ?_, Read.settled_value.extended, Read.settled_map.extended⟩
  · intro v bytes h cut before shorter
    exact Read.settled_value.truncated (Read.takes_value h) before shorter
  · intro m bytes h cut before shorter
    have fits : ¬ MapOversized m := by
      rw [← encodeMap_error_iff, h]
      simp
    obtain ⟨bytes', h', taken⟩ := exists_encodeMap fits
    rw [h] at h'
    cases h'
    exact Read.settled_map.truncated taken before shorter

/-- An array that was cut off, and a map that is broken however it goes on. -/
theorem truncated_or_final_array :
    (∃ e c, Read.value (Cursor.start [10, 0, 0, 0, 2, 7]) = .error e c ∧
      e.kind = .endOfMessage) ∧
    ∃ c, Read.map (Cursor.start [0, 0, 0, 1, 0, 0, 11, 5]) = .error (.unknownTag 11) c ∧
      c.position = 7 := by
  refine ⟨?_, ?_⟩
  · exact truncated_or_final.1 (.bytes [7, 8]) [10, 0, 0, 0, 2, 7, 8] rfl _ (by decide) (by decide)
  · exact (truncated_or_final.2.2.2 [0, 0, 0, 1, 0, 0, 11] [5]).2 (.unknownTag 11)
      ((Cursor.start [0, 0, 0, 1, 0, 0, 11]).skip 7) rfl (by decide)

end Courier.Wire
