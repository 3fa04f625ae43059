import Courier.Proofs.Wire.Demands
import Courier.Proofs.Wire.Truncation

/-!
# Reads move forward

A read that succeeds has moved forward, by what it needs at least and never past the end of the
data. Where nothing is left, a read that needs something runs out of data and stays.
-/

namespace Courier.Wire

set_option autoImplicit false

namespace Read

variable {α β : Type} {k l : Nat}

/-- When `r` succeeds it has taken at least `k` bytes, and no more than there were. -/
def Advances (r : Read α) (k : Nat) : Prop :=
  ∀ (c c' : Cursor) (a : α), r c = .ok a c' → ∃ n, k ≤ n ∧ n ≤ c.rest.length ∧ c' = c.skip n

theorem Advances.data {r : Read α} (h : Advances r k) {c c' : Cursor} {a : α}
    (read : r c = .ok a c') : c'.data = c.data := by
  obtain ⟨n, -, -, rfl⟩ := h c c' a read
  rfl

theorem Advances.mono {r : Read α} (h : Advances r k) (less : l ≤ k) : Advances r l := by
  intro c c' a read
  obtain ⟨n, most, rest⟩ := h c c' a read
  exact ⟨n, Nat.le_trans less most, rest⟩

theorem Advances.pure (a : α) : Advances (pure a : Read α) 0 := by
  intro c c' b read
  cases read
  exact ⟨0, Nat.le_refl 0, Nat.zero_le _, rfl⟩

theorem Advances.throw (e : Error) : Advances (throw e : Read α) k := by
  intro c c' a read
  cases read

theorem Advances.bind {r : Read α} {f : α → Read β} (hr : Advances r k)
    (hf : ∀ a, Advances (f a) l) : Advances (r >>= f) (k + l) := by
  intro c c' b read
  simp only [Bind.bind, EStateM.bind] at read
  cases first : r c with
  | error e c₁ => rw [first] at read; cases read
  | ok a c₁ =>
    rw [first] at read
    obtain ⟨m, least, most, rfl⟩ := hr c c₁ a first
    obtain ⟨n, least', most', rfl⟩ := hf a (c.skip m) c' b read
    rw [Cursor.skip_rest, List.length_drop] at most'
    exact ⟨m + n, by omega, by omega, Cursor.skip_skip c m n⟩

theorem Advances.map {r : Read α} (f : α → β) (h : Advances r k) : Advances (f <$> r) k := by
  intro c c' b read
  simp only [Functor.map, EStateM.map] at read
  cases first : r c with
  | error e c₁ => rw [first] at read; cases read
  | ok a c₁ =>
    rw [first] at read
    cases read
    exact h c c' a first

theorem Advances.ite {p : Prop} [Decidable p] {r s : Read α} (hr : Advances r k)
    (hs : Advances s k) : Advances (if p then r else s) k := by
  split
  · exact hr
  · exact hs

theorem Needs.advances {r : Read α} {need : Cursor → Nat} (h : Needs r need)
    (least : ∀ c, k ≤ need c) : Advances r k := by
  intro c c' a read
  obtain ⟨enough, rfl⟩ := (h c).ok read
  exact ⟨need c, least c, enough, rfl⟩

theorem advances_take (n : Nat) (what : String) : Advances (take n what) n :=
  (needs_take n what).advances fun _ => Nat.le_refl n

theorem advances_number (n : Nat) (what : String) : Advances (number n what) n :=
  (advances_take n what).map _

theorem advances_char : Advances char 2 := needs_char.advances fun _ => Nat.le_refl 2

theorem advances_int : Advances int 4 := (advances_number 4 "int").map _

theorem advances_string : Advances string 2 := needs_string.advances Cursor.two_le_stringNeed

theorem advances_array : Advances array 4 := by
  refine advances_int.bind (l := 0) ?_
  intro length
  have content : Advances (exact length.toInt.toNat) 0 :=
    (advances_take _ "byte array").mono (Nat.zero_le _)
  exact ((Advances.throw (k := 0) _).bind fun _ => content).ite content

theorem advances_payload (type : ValueType) : Advances (payload type) 0 := by
  have weak {γ : Type} {r : Read γ} {m : Nat} (f : γ → Value) (h : Advances r m) :
      Advances (f <$> r) 0 := (h.map f).mono (Nat.zero_le m)
  cases type with
  | null => exact Advances.pure _
  | boolean => exact weak _ ((advances_number 1 "boolean").map _)
  | byte => exact weak _ ((advances_number 1 "byte").map _)
  | char => exact weak _ advances_char
  | short => exact weak _ ((advances_number 2 "short").map _)
  | int => exact weak _ advances_int
  | long => exact weak _ ((advances_number 8 "long").map _)
  | float => exact weak _ ((advances_number 4 "float").map _)
  | double => exact weak _ ((advances_number 8 "double").map _)
  | string => exact weak _ advances_string
  | bytes => exact weak _ advances_array

/-- Of a value there is a tag at least. -/
theorem advances_value : Advances value 1 := by
  refine ((advances_number 1 "byte").map UInt8.ofNat).bind (l := 0) ?_
  intro tag
  cases ValueType.ofTag? tag with
  | none => exact Advances.throw _
  | some type => exact advances_payload type

theorem advances_into (buffer : List UInt8) : Advances (into buffer) 0 := by
  intro c c' part read
  have left : c' = (c.fill buffer).2.2 := by
    cases read
    rfl
  subst left
  unfold Cursor.fill
  split
  · exact ⟨0, Nat.le_refl 0, Nat.zero_le _, rfl⟩
  · split
    · exact ⟨0, Nat.le_refl 0, Nat.zero_le _, rfl⟩
    · refine ⟨(c.rest.take buffer.length).length, Nat.zero_le _, ?_, rfl⟩
      rw [List.length_take]
      omega

/-- A buffer that is no longer than what is left is filled. -/
theorem takes_into {buffer piece : List UInt8} (fits : piece.length = buffer.length) :
    Takes (into buffer) piece (some piece.length, piece) := by
  intro c rest h
  have filled : c.fill buffer = (some piece.length, piece, c.skip piece.length) := by
    cases piece with
    | nil =>
      rw [List.length_nil, eq_comm, List.length_eq_zero_iff] at fits
      subst fits
      rfl
    | cons byte piece =>
      have room : buffer.isEmpty = false := by
        cases buffer with
        | nil => cases fits
        | cons => rfl
      have more : c.exhausted = false := by rw [Cursor.exhausted, h]; rfl
      have front : c.rest.take buffer.length = byte :: piece := by rw [h, ← fits, List.take_left]
      have nothing : buffer.drop (byte :: piece).length = [] := by
        rw [fits, List.drop_length]
      simp only [Cursor.fill, room, more, front, nothing, List.append_nil, Bool.false_eq_true,
        if_false]
  simp only [into, filled]

/-- Where nothing is left, `r` says `e` and stays. -/
def Starves (r : Read α) (e : Error) : Prop := ∀ c : Cursor, c.rest = [] → r c = .error e c

theorem Starves.map {r : Read α} {e : Error} (f : α → β) (h : Starves r e) :
    Starves (f <$> r) e := by
  intro c none
  simp only [Functor.map, EStateM.map, h c none]

theorem Starves.bind {r : Read α} {e : Error} (f : α → Read β) (h : Starves r e) :
    Starves (r >>= f) e := by
  intro c none
  simp only [Bind.bind, EStateM.bind, h c none]

theorem starves_number {n : Nat} (what : String) (h : 0 < n) :
    Starves (number n what) (.shortInput n what 0) := by
  refine Starves.map _ ?_
  intro c none
  simp [take, none, h, Cursor.remaining]

theorem starves_string : Starves string (.shortInput 2 "unsigned short" 0) := by
  intro c none
  have first : unsignedShort c = .error (.shortInput 2 "unsigned short" 0) c :=
    ((starves_number _ (by decide)).map UInt16.ofNat) c none
  simp only [string, first]

theorem starves_value : Starves value (.shortInput 1 "byte" 0) :=
  ((starves_number "byte" (by decide)).map UInt8.ofNat).bind _

end Read

end Courier.Wire
