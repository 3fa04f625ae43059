import Courier.Proofs.Wire.Advancing

/-!
# Announced counts

The count in front of a map is no more than a promise. An entry takes three bytes at least, two for
the length of its key and one for the tag of its value, so a map that is read has as many bytes as
its count promises, and a count beyond what the data can hold is found out when the data ends or
turns out to be broken, after no more entries than fit.
-/

namespace Courier.Wire

set_option autoImplicit false

namespace Read

variable {α β : Type}

/-! ## How reads fail -/

/-- When `r` fails, the data has ended or is broken. -/
def Faults (r : Read α) : Prop :=
  ∀ (c c' : Cursor) (e : Error), r c = .error e c' → e.kind = .endOfMessage ∨ e.kind = .format

theorem Needs.faults {r : Read α} {need : Cursor → Nat} (h : Needs r need) : Faults r :=
  fun c _ _ failed => (h c).error failed

theorem Faults.pure (a : α) : Faults (pure a : Read α) := by
  intro c c' e failed
  cases failed

theorem Faults.throw {e : Error} (kind : e.kind = .format) : Faults (throw e : Read α) := by
  intro c c' e' failed
  cases failed
  exact .inr kind

theorem Faults.bind {r : Read α} {f : α → Read β} (hr : Faults r) (hf : ∀ a, Faults (f a)) :
    Faults (r >>= f) := by
  intro c c' e failed
  simp only [Bind.bind, EStateM.bind] at failed
  cases first : r c with
  | ok a c₁ =>
    rw [first] at failed
    exact hf a c₁ c' e failed
  | error e' c₁ =>
    rw [first] at failed
    cases failed
    exact hr c c' e first

theorem Faults.map {r : Read α} (f : α → β) (hr : Faults r) : Faults (f <$> r) := by
  rw [map_eq_pure_bind]
  exact hr.bind fun a => Faults.pure (f a)

theorem Faults.ite {p : Prop} [Decidable p] {r s : Read α} (hr : Faults r) (hs : Faults s) :
    Faults (if p then r else s) := by
  split
  · exact hr
  · exact hs

theorem faults_item (i : Item) : Faults i.read := i.needs.faults

theorem faults_array : Faults array := by
  refine (faults_item .int).bind ?_
  intro (length : Int32)
  have content : Faults (exact length.toInt.toNat) := faults_item (.bytes length.toInt.toNat)
  exact ((Faults.throw rfl).bind fun _ => content).ite content

theorem faults_payload (type : ValueType) : Faults (payload type) := by
  cases type with
  | null => exact Faults.pure _
  | boolean => exact (faults_item .boolean).map _
  | byte => exact (faults_item .byte).map _
  | char => exact (faults_item .char).map _
  | short => exact (faults_item .short).map _
  | int => exact (faults_item .int).map _
  | long => exact (faults_item .long).map _
  | float => exact (faults_item .float).map _
  | double => exact (faults_item .double).map _
  | string => exact (faults_item .string).map _
  | bytes => exact faults_array.map _

theorem faults_value : Faults value := by
  refine (faults_item .unsignedByte).bind ?_
  intro (tag : UInt8)
  cases ValueType.ofTag? tag with
  | none => exact Faults.throw rfl
  | some type => exact faults_payload type

/-! ## Entries -/

/-- A key and the value behind it. -/
def entry : Read (String × Value) := do
  let k ← string
  let v ← value
  return (k, v)

theorem faults_entry : Faults entry :=
  (faults_item .string).bind fun _ => faults_value.bind fun _ => Faults.pure _

theorem advances_entry : Advances entry 3 :=
  advances_string.bind fun _ => advances_value.bind fun _ => Advances.pure _

theorem entries_succ (n : Nat) (table : Table String Value) :
    entries (n + 1) table = entry >>= fun e => entries n (table.insert e.1 e.2) := by
  simp only [entries, entry, bind_assoc, pure_bind]

theorem advances_entries (n : Nat) (table : Table String Value) :
    Advances (entries n table) (3 * n) := by
  induction n generalizing table with
  | zero => exact Advances.pure table
  | succ n ih =>
    rw [entries_succ, Nat.mul_add, Nat.add_comm]
    exact advances_entry.bind fun e => ih (table.insert e.1 e.2)

/-- Of several entries the first is there before the others are read. -/
theorem entries_cases {n : Nat} {table m : Table String Value} {c c' : Cursor}
    (read : entries (n + 1) table c = .ok m c') :
    ∃ e c₁, entry c = .ok e c₁ ∧ entries n (table.insert e.1 e.2) c₁ = .ok m c' := by
  simp only [entries_succ, Bind.bind, EStateM.bind] at read
  cases first : entry c with
  | error e c₁ => rw [first] at read; cases read
  | ok e c₁ =>
    rw [first] at read
    exact ⟨e, c₁, rfl, read⟩

theorem size_entries {n : Nat} {table m : Table String Value} {c c' : Cursor}
    (read : entries n table c = .ok m c') : table.size ≤ m.size ∧ m.size ≤ table.size + n := by
  induction n generalizing table c with
  | zero =>
    cases read
    exact ⟨Nat.le_refl _, Nat.le_refl _⟩
  | succ n ih =>
    obtain ⟨e, c₁, -, others⟩ := entries_cases read
    have sized := table.size_insert e.1 e.2
    obtain ⟨least, most⟩ := ih others
    split at sized <;> omega

theorem size_pos_of_entries {n : Nat} {table m : Table String Value} {c c' : Cursor}
    (read : entries (n + 1) table c = .ok m c') : 0 < m.size := by
  obtain ⟨e, c₁, -, others⟩ := entries_cases read
  exact Nat.lt_of_lt_of_le (table.size_insert_pos e.1 e.2) (size_entries others).1

/-- Entries that cannot all be read break off at one of them, with those before it complete. -/
theorem exists_broken_entry {n : Nat} {table : Table String Value} {c c' : Cursor} {e : Error}
    (failed : entries n table c = .error e c') :
    ∃ done < n, ∃ t c₁, entries done table c = .ok t c₁ ∧ entry c₁ = .error e c' := by
  induction n generalizing table c with
  | zero => cases failed
  | succ n ih =>
    simp only [entries_succ, Bind.bind, EStateM.bind] at failed
    cases first : entry c with
    | error e' c₁ =>
      rw [first] at failed
      cases failed
      exact ⟨0, Nat.zero_lt_succ n, table, c, rfl, first⟩
    | ok entry c₁ =>
      rw [first] at failed
      obtain ⟨done, before, t, c₂, complete, broken⟩ := ih failed
      refine ⟨done + 1, Nat.succ_lt_succ before, t, c₂, ?_, broken⟩
      simp only [entries_succ, Bind.bind, EStateM.bind, first, complete]

/-! ## Maps -/

theorem int_ok {c c' : Cursor} {count : Int32} (read : int c = .ok count c') :
    4 ≤ c.remaining ∧ c' = c.skip 4 := (Item.needs .int c).ok read

theorem map_of_count {c c' : Cursor} {count : Int32} (read : int c = .ok count c')
    (positive : 0 ≤ count.toInt) : map c = entries count.toInt.toNat ∅ c' := by
  have sign : ¬ count.toInt < 0 := by omega
  simp only [map, Bind.bind, EStateM.bind, read, if_neg sign]

theorem count_of_map {c c' : Cursor} {m : Table String Value} (read : map c = .ok m c') :
    ∃ count, int c = .ok count (c.skip 4) ∧ 0 ≤ count.toInt := by
  cases first : int c with
  | error e c₁ =>
    simp only [map, Bind.bind, EStateM.bind, first] at read
    cases read
  | ok count c₁ =>
    obtain ⟨-, rfl⟩ := int_ok first
    refine ⟨count, rfl, ?_⟩
    by_contra negative
    simp only [map, Bind.bind, EStateM.bind, first, if_pos (Int.lt_of_not_ge negative)] at read
    cases read

end Read

/-- A map that is read wherever a reader stands has a count that is not negative and at least three
bytes for each entry behind it, all within what was left; it has no more entries than announced, and
one at least if any were. So when more entries are announced than the data has room for, the read
fails, because the data ends or is broken, in an entry with no more complete ones before it than a
third of the bytes. -/
theorem count_backed (c : Cursor) :
    (∀ m c', Read.map c = .ok m c' → ∃ (count : Int32) (used : Nat),
      Read.int c = .ok count (c.skip 4) ∧ 0 ≤ count.toInt ∧
      c'.data = c.data ∧ c'.position = c.position + used ∧
      4 + 3 * count.toInt ≤ used ∧ used ≤ c.remaining ∧
      (m.size : Int) ≤ count.toInt ∧ (0 < count.toInt → 0 < m.size)) ∧
    ∀ count c₁, Read.int c = .ok count c₁ → ((c.remaining : Int) - 4) / 3 < count.toInt →
      ∃ (done : Nat) (t : Table String Value) (c₂ c' : Cursor) (e : Error),
        (done : Int) < count.toInt ∧ done ≤ c.remaining / 3 ∧
        Read.entries done ∅ c₁ = .ok t c₂ ∧ Read.entry c₂ = .error e c' ∧
        Read.map c = .error e c' ∧ (e.kind = .endOfMessage ∨ e.kind = .format) := by
  have left : (c.skip 4).remaining = c.remaining - 4 := by
    simp [Cursor.remaining]
  refine ⟨?_, ?_⟩
  · intro m c' read
    obtain ⟨count, announced, positive⟩ := Read.count_of_map read
    obtain ⟨room, -⟩ := Read.int_ok announced
    rw [Read.map_of_count announced positive] at read
    obtain ⟨used, least, most, rfl⟩ := Read.advances_entries _ _ _ _ _ read
    have most : used ≤ (c.skip 4).remaining := most
    have sized := (Read.size_entries read).2
    have empty : (∅ : Table String Value).size = 0 := rfl
    refine ⟨count, 4 + used, announced, positive, rfl, ?_, by omega, by omega, by omega, ?_⟩
    · rw [Cursor.skip_skip, c.position_skip (by change _ ≤ c.remaining; omega)]
    · intro some
      obtain ⟨n, count_eq⟩ : ∃ n, count.toInt.toNat = n + 1 :=
        Nat.exists_eq_succ_of_ne_zero (by omega)
      rw [count_eq] at read
      exact Read.size_pos_of_entries read
  · intro count c₁ announced many
    obtain ⟨room, rfl⟩ := Read.int_ok announced
    have positive : 0 ≤ count.toInt := by omega
    rw [Read.map_of_count announced positive]
    cases read : Read.entries count.toInt.toNat ∅ (c.skip 4) with
    | ok m c' =>
      obtain ⟨used, least, most, -⟩ := Read.advances_entries _ _ _ _ _ read
      have most : used ≤ (c.skip 4).remaining := most
      omega
    | error e c' =>
      obtain ⟨done, before, t, c₂, complete, broken⟩ := Read.exists_broken_entry read
      obtain ⟨used, least, most, -⟩ := Read.advances_entries _ _ _ _ _ complete
      have most : used ≤ (c.skip 4).remaining := most
      exact ⟨done, t, c₂, c', e, by omega, by omega, complete, broken, rfl,
        Read.faults_entry _ _ _ broken⟩

/-- Two entries under one key. -/
def sampleTwins : Cursor := .start [0, 0, 0, 2, 0, 0, 0, 0, 0, 0]

/-- One entry, and the announcement of as many as can be announced. -/
def samplePromise : Cursor := .start [0x7F, 0xFF, 0xFF, 0xFF, 0, 0, 0]

/-- The twins make a map of one entry and have taken all ten bytes; the promise is broken before a
third entry. -/
theorem count_backed_extremes :
    (Read.map sampleTwins = .ok (Table.ofList [("", .null)]) (sampleTwins.skip 10) ∧
      ∃ (count : Int32) (used : Nat), Read.int sampleTwins = .ok count (sampleTwins.skip 4) ∧
        (sampleTwins.skip 10).position = sampleTwins.position + used ∧
        4 + 3 * count.toInt ≤ used ∧ used ≤ 10 ∧ 1 ≤ count.toInt) ∧
    ((samplePromise.remaining : Int) - 4) / 3 < (2147483647 : Int32).toInt ∧
      ∃ (done : Nat) (e : Error) (c' : Cursor), done ≤ 2 ∧
        Read.map samplePromise = .error e c' ∧ (e.kind = .endOfMessage ∨ e.kind = .format) := by
  refine ⟨?_, by decide, ?_⟩
  · have read : Read.map sampleTwins = .ok (Table.ofList [("", .null)]) (sampleTwins.skip 10) := rfl
    obtain ⟨count, used, announced, -, -, moved, least, most, size, -⟩ :=
      (count_backed sampleTwins).1 _ _ read
    exact ⟨read, count, used, announced, moved, least, most, size⟩
  · have announced : Read.int samplePromise = .ok 2147483647 (samplePromise.skip 4) := rfl
    obtain ⟨done, t, c₂, c', e, -, few, -, -, failed, kind⟩ :=
      (count_backed samplePromise).2 _ _ announced (by decide)
    exact ⟨done, e, c', few, failed, kind⟩

end Courier.Wire
